import MarkupAudit.Audit.Score
import MarkupAudit.Proofs.Number.Binary64

/-! The score as a function of the exact share of checks passed, which it never falls with. Nothing
goes out of range unless the violations outnumber the rules by far. -/
namespace MarkupAudit

def share (total violations : Int) : Rat :=
  ((total - violations : Int) : Rat) / total

def points (q : Rat) : Int :=
  floorHalfUp (percentage (Binary64.round q))

theorem passedShare_eq (total violations : Int) :
    passedShare total violations = Binary64.round (share total violations) :=
  rfl

theorem percentage_mono {x y : Rat} (h : x ≤ y) : percentage x ≤ percentage y :=
  Binary64.round_mono (by linarith)

theorem floorHalfUp_mono {x y : Rat} (h : x ≤ y) : floorHalfUp x ≤ floorHalfUp y := by
  have hround : Binary64.round (x + 1 / 2) ≤ Binary64.round (y + 1 / 2) :=
    Binary64.round_mono (by linarith)
  apply Rat.le_floor_iff.2
  exact (Rat.floor_le _).trans hround

theorem points_mono {p q : Rat} (h : p ≤ q) : points p ≤ points q :=
  floorHalfUp_mono (percentage_mono (Binary64.round_mono h))

theorem points_zero : points 0 = 0 := by
  decide +kernel

theorem points_one : points 1 = 100 := by
  decide +kernel

section
variable {total violations : Int}

/-- Arithmetic stays in range while the share is within a power of two that leaves room for the
factor of a hundred. -/
theorem score_eq_points {j : Int} (htotal : 0 < total) (hj : -1074 ≤ j) (hj' : j ≤ 1000)
    (hlow : -2 ^ j ≤ share total violations) (hhigh : share total violations ≤ 2 ^ j) :
    score total violations = .ok (max 0 (points (share total violations))) := by
  obtain ⟨hshareLow, hshareHigh⟩ := Binary64.round_abs_le hj hlow hhigh
  have hpow : (2 : Rat) ^ (j + 7) = 2 ^ j * 128 := by
    rw [zpow_add₀ (by norm_num)]
    norm_num
  have hpos := Binary64.zpow_two_pos j
  obtain ⟨hpercentLow, hpercentHigh⟩ :=
    Binary64.round_abs_le (x := Binary64.round (share total violations) * 100) (j := j + 7)
      (by omega) (by linarith) (by linarith)
  have hshare := Binary64.isFinite_of_abs_le (by omega) hshareLow hshareHigh
  have hpercent := Binary64.isFinite_of_abs_le (by omega) hpercentLow hpercentHigh
  unfold score
  rw [if_neg (by omega)]
  simp only [passedShare_eq, percentage, hshare, hpercent]
  rfl

theorem share_le_one (htotal : 0 < total) (hnonneg : 0 ≤ violations) :
    share total violations ≤ 1 := by
  have ht : (0 : Rat) < total := by exact_mod_cast htotal
  have hv : (0 : Rat) ≤ violations := by exact_mod_cast hnonneg
  unfold share
  rw [div_le_one ht]
  push_cast
  linarith

theorem share_nonneg (htotal : 0 < total) (hle : violations ≤ total) :
    0 ≤ share total violations := by
  have ht : (0 : Rat) < total := by exact_mod_cast htotal
  have hv : (violations : Rat) ≤ total := by exact_mod_cast hle
  unfold share
  apply div_nonneg _ ht.le
  push_cast
  linarith

theorem exists_score_of_le {j : Nat} (hj : j ≤ 1000) (hnonneg : 0 ≤ violations)
    (hle : violations ≤ 2 ^ j * total) : ∃ s, score total violations = .ok s := by
  rcases le_or_gt total 0 with htotal | htotal
  · exact ⟨100, if_pos htotal⟩
  · have ht : (0 : Rat) < total := by exact_mod_cast htotal
    have hle : (violations : Rat) ≤ 2 ^ (j : Int) * total := by exact_mod_cast hle
    refine ⟨_, score_eq_points (j := j) htotal (by omega) (by omega) ?_ ?_⟩
    · unfold share
      rw [le_div_iff₀ ht]
      push_cast
      linarith
    · exact (share_le_one htotal hnonneg).trans (one_le_zpow₀ (by norm_num) (by omega))

section
variable (htotal : 0 < total) (hnonneg : 0 ≤ violations) (hle : violations ≤ total)
include htotal hnonneg hle

theorem points_share_bounds :
    0 ≤ points (share total violations) ∧ points (share total violations) ≤ 100 := by
  have hlow := points_mono (share_nonneg htotal hle)
  have hhigh := points_mono (share_le_one htotal hnonneg)
  rw [points_zero] at hlow
  rw [points_one] at hhigh
  exact ⟨hlow, hhigh⟩

theorem score_eq_ok_points : score total violations = .ok (points (share total violations)) := by
  have hlow := share_nonneg htotal hle
  have hhigh := share_le_one htotal hnonneg
  have hlow' : -2 ^ (0 : Int) ≤ share total violations := by
    rw [zpow_zero]
    linarith
  rw [score_eq_points htotal (by omega) (by omega) hlow' (by rwa [zpow_zero]),
    max_eq_right (points_share_bounds htotal hnonneg hle).1]

end

end

end MarkupAudit
