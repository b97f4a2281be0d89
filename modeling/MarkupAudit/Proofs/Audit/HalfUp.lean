import MarkupAudit.Proofs.Audit.Score

/-! The score against the percentage rounded half up. Each of them counts the thresholds that the
share of checks passed has reached, and they differ where a threshold of the score lies off the
half. -/
namespace MarkupAudit

/-- The exact percentage of checks passed, rounded half up. -/
def halfUp (total violations : Int) : Int :=
  (200 * (total - violations) + total) / (2 * total)

/-- The least share that is rounded up to a percentage. -/
def half (k : Nat) : Rat :=
  ((2 * k - 1 : Int) : Rat) / 200

/-- The percentages to which their halves are not rounded up. -/
def lostHalves : List Nat := [15, 29, 57, 58]

/-- The percentages to which the binary64 number before the one nearest to the half is rounded up. -/
def gainedHalves : List Nat := [1, 3, 9, 12, 34, 41, 47, 68, 69, 80, 81, 93, 94]

def halfPlaces (k : Nat) : Nat :=
  53 + (200 / (2 * k - 1)).log2

def thresholdUnits (k : Nat) : Int :=
  Binary64.nearestEven ((2 * k - 1) * 2 ^ halfPlaces k) 200 +
    (if k ∈ lostHalves then 1 else if k ∈ gainedHalves then -1 else 0)

/-- The least binary64 number that scores a percentage: the one nearest to the half, or one beside
it. -/
def threshold (k : Nat) : Rat :=
  (thresholdUnits k : Rat) * 2 ^ (-(halfPlaces k : Int))

section
variable {total violations : Int}

theorem le_halfUp_iff (htotal : 0 < total) {k : Nat} :
    (k : Int) ≤ halfUp total violations ↔ half k ≤ share total violations := by
  have ht : (0 : Rat) < total := by exact_mod_cast htotal
  unfold halfUp half share
  rw [Int.le_ediv_iff_mul_le (by omega), div_le_div_iff₀ (by norm_num) ht]
  constructor
  · intro h
    have h : (2 * (k : Int) - 1) * total ≤ (total - violations) * 200 := by linarith
    exact_mod_cast h
  · intro h
    have h : (2 * (k : Int) - 1) * total ≤ (total - violations) * 200 := by exact_mod_cast h
    linarith

theorem halfUp_bounds (htotal : 0 < total) (hnonneg : 0 ≤ violations) (hle : violations ≤ total) :
    0 ≤ halfUp total violations ∧ halfUp total violations ≤ 100 := by
  unfold halfUp
  constructor
  · exact Int.ediv_nonneg (by omega) (by omega)
  · apply Int.lt_add_one_iff.1
    apply Int.ediv_lt_of_lt_mul (by omega)
    omega

end

/-- Shares this close below a half score less than the percentage, and shares this close above a
lost half score it. -/
def margin : Rat :=
  1 / (200 * 2 ^ 45 : Nat)

-- All that is known of the thresholds by evaluation, in one pass over the percentages.
theorem threshold_table : ∀ k ∈ List.range' 1 100,
    (2 ^ 52 < thresholdUnits k ∧ thresholdUnits k ≤ 2 ^ 53 ∧ halfPlaces k ≤ 1074 ∧
      k ≤ floorHalfUp (percentage (threshold k)) ∧
      floorHalfUp (percentage
        (((thresholdUnits k - 1 : Int) : Rat) * 2 ^ (-(halfPlaces k : Int)))) < k) ∧
    Binary64.round (half k - margin) < threshold k ∧
    if k ∈ lostHalves then
      Binary64.round (half k) < threshold k ∧ threshold k ≤ Binary64.round (half k + margin)
    else threshold k ≤ Binary64.round (half k) := by
  decide +kernel

theorem threshold_le_iff {k : Nat} (hk : k ∈ List.range' 1 100) (q : Rat) :
    threshold k ≤ Binary64.round q ↔ (k : Int) ≤ points q := by
  obtain ⟨⟨hlow, hhigh, hplaces, hreached, hmissed⟩, -⟩ := threshold_table k hk
  constructor
  · intro h
    exact hreached.trans (floorHalfUp_mono (percentage_mono h))
  · intro h
    by_contra hlt
    have hpred := Binary64.round_le_pred (by omega) hlow hhigh (not_le.1 hlt)
    have hpoints := floorHalfUp_mono (percentage_mono hpred)
    unfold points at h
    omega

theorem round_lt_threshold_iff {k : Nat} (hk : k ∈ List.range' 1 100) (q : Rat) :
    Binary64.round q < threshold k ↔ points q < k := by
  rw [← not_le, threshold_le_iff hk, not_le]

section
variable {k : Nat} (hk : k ∈ List.range' 1 100)
include hk

theorem points_below_half : points (half k - margin) < k :=
  (round_lt_threshold_iff hk _).1 (threshold_table k hk).2.1

theorem le_points_half (hkept : k ∉ lostHalves) : k ≤ points (half k) := by
  have h := (threshold_table k hk).2.2
  rw [if_neg hkept] at h
  exact (threshold_le_iff hk _).1 h

theorem points_lostHalf (hlost : k ∈ lostHalves) :
    points (half k) < k ∧ k ≤ points (half k + margin) := by
  have h := (threshold_table k hk).2.2
  rw [if_pos hlost] at h
  exact ⟨(round_lt_threshold_iff hk _).1 h.1, (threshold_le_iff hk _).1 h.2⟩

end

theorem lostHalves_subset : ∀ k ∈ lostHalves, k ∈ List.range' 1 100 := by
  decide

theorem mem_percentages_iff {k : Nat} : k ∈ List.range' 1 100 ↔ 1 ≤ k ∧ k ≤ 100 := by
  rw [List.mem_range'_1]
  omega

theorem eq_iff_le_iff {a b : Int} (ha : 0 ≤ a ∧ a ≤ 100) (hb : 0 ≤ b ∧ b ≤ 100) :
    a = b ↔ ∀ k ∈ List.range' 1 100, (k ≤ b ↔ k ≤ a) := by
  constructor
  · rintro rfl k -
    exact Iff.rfl
  · intro h
    have reach {c d : Int} (hc : 0 ≤ c ∧ c ≤ 100) (hd : 0 ≤ d)
        (hcd : ∀ k ∈ List.range' 1 100, k ≤ c → k ≤ d) : c ≤ d := by
      rcases hc.1.eq_or_lt with rfl | hpos
      · exact hd
      · have hk := hcd c.toNat (mem_percentages_iff.2 (by omega)) (by omega)
        omega
    apply le_antisymm
    · exact reach ha hb.1 fun k hk => (h k hk).2
    · exact reach hb ha.1 fun k hk => (h k hk).1

section
variable {total violations : Int}

theorem div_add_le_of_div_lt {a b : Int} {d : Rat} (hd : 0 < d) (h : (a : Rat) / d < b / d) :
    (a : Rat) / d + 1 / d ≤ b / d := by
  have hab : a + 1 ≤ b := by
    have := (div_lt_div_iff_of_pos_right hd).1 h
    exact_mod_cast this
  rw [← add_div]
  exact div_le_div_of_nonneg_right (by exact_mod_cast hab) hd.le

/-- Shares with small terms lie on a half or keep away from it. -/
theorem share_far_of_ne (violations : Int) (htotal : 0 < total) (hsmall : total ≤ 2 ^ 45) {k : Nat} :
    (share total violations < half k → share total violations ≤ half k - margin) ∧
    (half k < share total violations → half k + margin ≤ share total violations) := by
  have ht : (0 : Rat) < total := by exact_mod_cast htotal
  have hden : (0 : Rat) < 200 * total := by linarith
  have hsmall : (total : Rat) ≤ 2 ^ 45 := by exact_mod_cast hsmall
  have hshare : share total violations = (200 * (total - violations) : Int) / (200 * total) := by
    unfold share
    push_cast
    field_simp
  have hhalf : half k = ((2 * k - 1) * total : Int) / (200 * total) := by
    unfold half
    push_cast
    field_simp
  have hmargin : margin ≤ 1 / (200 * total) := by
    unfold margin
    apply one_div_le_one_div_of_le hden
    push_cast
    linarith
  rw [hshare, hhalf]
  constructor
  · intro h
    have := div_add_le_of_div_lt hden h
    linarith
  · intro h
    have := div_add_le_of_div_lt hden h
    linarith

theorem share_eq_half_iff (htotal : 0 < total) {k : Nat} :
    share total violations = half k ↔ 200 * (total - violations) = (2 * k - 1) * total := by
  have ht : (total : Rat) ≠ 0 := by exact_mod_cast htotal.ne'
  unfold share half
  rw [div_eq_div_iff ht (by norm_num), mul_comm]
  exact_mod_cast Iff.rfl

theorem half_iff_points_of_small (htotal : 0 < total) (hsmall : total ≤ 2 ^ 45) {k : Nat}
    (hk : k ∈ List.range' 1 100) :
    (half k ≤ share total violations ↔ (k : Int) ≤ points (share total violations)) ↔
      ¬(k ∈ lostHalves ∧ share total violations = half k) := by
  obtain ⟨hbelow, habove⟩ := share_far_of_ne violations htotal hsmall (k := k)
  rcases lt_trichotomy (share total violations) (half k) with h | h | h
  · have hpoints := (points_mono (hbelow h)).trans_lt (points_below_half hk)
    have hne := h.ne
    have hnot := not_le.2 h
    have hnot' := not_le.2 hpoints
    simp [hne, hnot, hnot']
  · rw [h]
    by_cases hlost : k ∈ lostHalves
    · have hpoints := (points_lostHalf hk hlost).1
      simp [hlost, hpoints]
    · have hpoints := le_points_half hk hlost
      simp [hlost, hpoints]
  · have hpoints : (k : Int) ≤ points (share total violations) := by
      by_cases hlost : k ∈ lostHalves
      · exact (points_lostHalf hk hlost).2.trans (points_mono (habove h))
      · exact (le_points_half hk hlost).trans (points_mono h.le)
    simp [h.ne', h.le, hpoints]

/-- The score is the percentage rounded half up exactly when the rounded share has reached the
thresholds of the halves that the share has reached. For no more than 2^45 checks, it is so unless
the share is 14.5, 28.5, 56.5 or 57.5 percent. -/
theorem score_eq_halfUp_iff (htotal : 1 ≤ total) (hnonneg : 0 ≤ violations)
    (hle : violations ≤ total) :
    (score total violations = .ok (halfUp total violations) ↔
      ∀ k ∈ List.range' 1 100,
        (half k ≤ share total violations ↔ threshold k ≤ passedShare total violations)) ∧
    (total ≤ 2 ^ 45 →
      (score total violations = .ok (halfUp total violations) ↔
        ∀ k ∈ lostHalves, 200 * (total - violations) ≠ (2 * k - 1) * total)) := by
  have hscore := score_eq_ok_points htotal hnonneg hle
  have hexact : score total violations = .ok (halfUp total violations) ↔
      ∀ k ∈ List.range' 1 100,
        (half k ≤ share total violations ↔ (k : Int) ≤ points (share total violations)) := by
    rw [hscore, Except.ok.injEq,
      eq_iff_le_iff (points_share_bounds htotal hnonneg hle) (halfUp_bounds htotal hnonneg hle)]
    apply forall₂_congr
    intro k _
    rw [le_halfUp_iff htotal]
  constructor
  · rw [hexact]
    apply forall₂_congr
    intro k hk
    rw [passedShare_eq, threshold_le_iff hk]
  · intro hsmall
    rw [hexact]
    constructor
    · intro h k hk heq
      have hrange := lostHalves_subset k hk
      exact (half_iff_points_of_small htotal hsmall hrange).1 (h k hrange)
        ⟨hk, (share_eq_half_iff htotal).2 heq⟩
    · intro h k hk
      apply (half_iff_points_of_small htotal hsmall hk).2
      rintro ⟨hlost, heq⟩
      exact h k hlost ((share_eq_half_iff htotal).1 heq)

theorem score_eight_three :
    (1 : Int) ≤ 8 ∧ (0 : Int) ≤ 3 ∧ (3 : Int) ≤ 8 ∧ (8 : Int) ≤ 2 ^ 45 ∧
    (∀ k ∈ lostHalves, (200 * (8 - 3) : Int) ≠ (2 * k - 1) * 8) ∧
    score 8 3 = .ok (halfUp 8 3) ∧ halfUp 8 3 = 63 := by
  have hkept : ∀ k ∈ lostHalves, (200 * (8 - 3) : Int) ≠ (2 * k - 1) * 8 := by decide
  have hscore : score 8 3 = .ok (halfUp 8 3) :=
    ((score_eq_halfUp_iff (by decide) (by decide) (by decide)).2 (by decide)).2 hkept
  exact ⟨by decide, by decide, by decide, by decide, hkept, hscore, by decide⟩

/-- Of 40 checks 23 pass, which is 57.5 percent. -/
theorem score_forty_seventeen : score 40 17 = .ok 57 ∧ halfUp 40 17 = 58 := by
  have hpoints : points (share 40 17) = 57 := by decide +kernel
  refine ⟨?_, by decide⟩
  rw [score_eq_ok_points (by decide) (by decide) (by decide), hpoints]

end

end MarkupAudit
