import MarkupAudit.Proofs.Audit.Score

/-! The score as a measure of what was found. Wherever there is one it is a percentage that does not
rise with the violations, and there is one as long as no more checks fail than there are. Leaving
out a check that some violations come from cannot lower it, and leaving out one that none come from
cannot raise it. -/
namespace MarkupAudit
variable {total violations fewer more s t : Int}

theorem score_of_no_checks (htotal : total ≤ 0) (violations : Int) :
    score total violations = .ok 100 :=
  if_pos htotal

theorem eq_points_of_score (htotal : 0 < total) (h : score total violations = .ok s) :
    s = max 0 (points (share total violations)) := by
  unfold score at h
  rw [if_neg (by omega)] at h
  dsimp only at h
  split at h
  · cases h
  · split at h
    · cases h
    · exact (Except.ok.inj h).symm

theorem share_antitone (htotal : 0 < total) (h : fewer ≤ more) :
    share total more ≤ share total fewer := by
  have ht : (0 : Rat) < total := by exact_mod_cast htotal
  unfold share
  apply div_le_div_of_nonneg_right _ ht.le
  exact_mod_cast sub_le_sub_left h total

theorem score_mem_range (hnonneg : 0 ≤ violations) (h : score total violations = .ok s) :
    0 ≤ s ∧ s ≤ 100 := by
  rcases le_or_gt total 0 with htotal | htotal
  · rw [score_of_no_checks htotal] at h
    cases h
    exact ⟨by decide, le_rfl⟩
  · have hpoints := points_mono (share_le_one htotal hnonneg)
    rw [points_one] at hpoints
    rw [eq_points_of_score htotal h]
    exact ⟨le_max_left _ _, max_le (by decide) hpoints⟩

theorem score_le_of_share_le {total' violations' : Int} (htotal : 0 < total) (htotal' : 0 < total')
    (hshare : share total' violations' ≤ share total violations)
    (hs : score total violations = .ok s) (ht : score total' violations' = .ok t) : t ≤ s := by
  rw [eq_points_of_score htotal hs, eq_points_of_score htotal' ht]
  exact max_le_max le_rfl (points_mono hshare)

theorem score_antitone (hle : fewer ≤ more) (hs : score total fewer = .ok s)
    (ht : score total more = .ok t) : t ≤ s := by
  rcases le_or_gt total 0 with htotal | htotal
  · rw [score_of_no_checks htotal] at hs ht
    cases hs
    cases ht
    exact le_rfl
  · exact score_le_of_share_le htotal htotal (share_antitone htotal hle) hs ht

theorem score_no_violations (total : Int) : score total 0 = .ok 100 := by
  rcases le_or_gt total 0 with htotal | htotal
  · exact score_of_no_checks htotal 0
  · have hshare : share total 0 = 1 := by
      unfold share
      rw [sub_zero]
      exact div_self (by exact_mod_cast htotal.ne')
    rw [score_eq_ok_points htotal le_rfl htotal.le, hshare, points_one]

theorem score_eq_zero (htotal : 1 ≤ total) (hle : total ≤ violations)
    (h : score total violations = .ok s) : s = 0 := by
  have hfull : share total total = 0 := by
    unfold share
    rw [sub_self, Int.cast_zero, zero_div]
  have hpoints := points_mono (share_antitone htotal hle)
  rw [hfull, points_zero] at hpoints
  rw [eq_points_of_score htotal h]
  exact max_eq_left hpoints

/-- The score lies between 0 and 100 and does not rise with the violations. There is one for any
number of checks and no more violations than that, and for no checks at all. It is 100 without
violations and 0 with as many of them as there are checks. -/
theorem score_measures (total : Int) :
    (∀ violations s, 0 ≤ violations → score total violations = .ok s → 0 ≤ s ∧ s ≤ 100) ∧
    (∀ fewer more s t, fewer ≤ more →
      score total fewer = .ok s → score total more = .ok t → t ≤ s) ∧
    (∀ violations, 0 ≤ violations → violations ≤ total → ∃ s, score total violations = .ok s) ∧
    (total ≤ 0 → ∀ violations, ∃ s, score total violations = .ok s) ∧
    score total 0 = .ok 100 ∧
    (1 ≤ total → ∀ violations s, total ≤ violations →
      score total violations = .ok s → s = 0) := by
  refine ⟨?_, ?_, ?_, ?_, score_no_violations total, ?_⟩
  · intro violations s hnonneg h
    exact score_mem_range hnonneg h
  · intro fewer more s t hle hs ht
    exact score_antitone hle hs ht
  · intro violations hnonneg hle
    apply exists_score_of_le (j := 0) (by omega) hnonneg
    rwa [pow_zero, one_mul]
  · intro htotal violations
    exact ⟨100, score_of_no_checks htotal violations⟩
  · intro htotal violations s hle h
    exact score_eq_zero htotal hle h

theorem score_measures_huge :
    (0 : Int) ≤ 2 ^ 1999 ∧ (2 : Int) ^ 1999 ≤ 2 ^ 2000 ∧ (1 : Int) ≤ 2 ^ 2000 ∧
    ∃ s, score (2 ^ 2000) (2 ^ 1999) = .ok s ∧ 0 ≤ s ∧ s ≤ 100 ∧
      ∃ t, score (2 ^ 2000) (2 ^ 2000) = .ok t ∧ t ≤ s ∧ t = 0 := by
  have hnonneg : (0 : Int) ≤ 2 ^ 1999 := by positivity
  have hle : (2 : Int) ^ 1999 ≤ 2 ^ 2000 := pow_le_pow_right₀ (by decide) (by decide)
  have hone : (1 : Int) ≤ 2 ^ 2000 := one_le_pow₀ (by decide)
  obtain ⟨hrange, hantitone, hexists, -, -, hzero⟩ := score_measures (2 ^ 2000)
  obtain ⟨s, hs⟩ := hexists (2 ^ 1999) hnonneg hle
  obtain ⟨t, ht⟩ := hexists (2 ^ 2000) (hnonneg.trans hle) le_rfl
  obtain ⟨hlow, hhigh⟩ := hrange _ s hnonneg hs
  exact ⟨hnonneg, hle, hone, s, hs, hlow, hhigh, t, ht, hantitone _ _ s t hle hs ht,
    hzero hone _ t le_rfl ht⟩

section
variable {removed : Int}

theorem share_pred_sub_share (htotal : 1 < total) :
    share (total - 1) (violations - removed) - share total violations =
      ((removed * total - violations : Int) : Rat) / ((total * (total - 1) : Int) : Rat) := by
  have ht : (total : Rat) ≠ 0 := by
    exact_mod_cast (show total ≠ 0 by omega)
  have ht' : (total : Rat) - 1 ≠ 0 := by
    exact_mod_cast (show total - 1 ≠ 0 by omega)
  unfold share
  push_cast
  field_simp
  ring

theorem share_le_share_pred (htotal : 1 < total) (h : violations ≤ removed * total) :
    share total violations ≤ share (total - 1) (violations - removed) := by
  have hgain : share (total - 1) (violations - removed) - share total violations =
      ((removed * total - violations : Int) : Rat) / ((total * (total - 1) : Int) : Rat) :=
    share_pred_sub_share htotal
  have hnonneg : (0 : Rat) ≤ ((removed * total - violations : Int) : Rat) := by
    exact_mod_cast sub_nonneg.2 h
  have hden : (0 : Rat) ≤ ((total * (total - 1) : Int) : Rat) := by
    exact_mod_cast mul_nonneg (show 0 ≤ total by omega) (show 0 ≤ total - 1 by omega)
  have := div_nonneg hnonneg hden
  linarith

theorem share_pred_le_share (htotal : 1 < total) (h : 0 ≤ violations) :
    share (total - 1) violations ≤ share total violations := by
  have ht : (1 : Rat) < total := by exact_mod_cast htotal
  have hv : (0 : Rat) ≤ violations := by exact_mod_cast h
  have hpred : (0 : Rat) < ((total - 1 : Int) : Rat) := by
    push_cast
    linarith
  unfold share
  rw [div_le_div_iff₀ hpred (by linarith)]
  push_cast
  linarith

/-- A check that violations come from is left out together with these. As long as fewer checks fail
than there are, the violations that go outweigh the check; otherwise the score was 0 before. -/
theorem score_le_of_removed (hremoved : 1 ≤ removed) (hle : removed ≤ violations)
    (hs : score total violations = .ok s)
    (ht : score (total - 1) (violations - removed) = .ok t) : s ≤ t := by
  have hrange := score_mem_range (by omega) hs
  have hrange' := score_mem_range (by omega) ht
  rcases lt_or_ge 1 total with htotal | htotal
  · rcases le_or_gt total violations with hfull | hfew
    · rw [score_eq_zero htotal.le hfull hs]
      exact hrange'.1
    · have hshare : violations ≤ removed * total := by nlinarith
      exact score_le_of_share_le (by omega) (by omega) (share_le_share_pred htotal hshare) ht hs
  · rw [score_of_no_checks (by omega)] at ht
    cases ht
    exact hrange.2

theorem score_le_of_kept (hnonneg : 0 ≤ violations) (hlast : total ≤ 1 → violations = 0)
    (hs : score total violations = .ok s) (ht : score (total - 1) violations = .ok t) : t ≤ s := by
  -- With the last check there are none at all, and the score is 100.
  rcases lt_or_ge 1 total with htotal | htotal
  · exact score_le_of_share_le (by omega) (by omega) (share_pred_le_share htotal hnonneg) hs ht
  · rw [hlast htotal, score_no_violations] at hs
    cases hs
    exact (score_mem_range hnonneg ht).2

end

end MarkupAudit
