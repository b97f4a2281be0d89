import MarkupAudit.Proofs.Audit.Disabling
import MarkupAudit.Proofs.Audit.HalfUp
import MarkupAudit.Proofs.Config.Rules

/-! Full scores. Rounding makes up for one violation in 200 checks and no more, and the catalog has far
fewer rules than that, so by its rules a full score means that nothing was found. -/
namespace MarkupAudit

section
variable {total violations s : Int}

theorem hundred_le_points_iff (htotal : 0 < total) (hsmall : total ≤ 2 ^ 45) :
    100 ≤ points (share total violations) ↔ 200 * violations ≤ total := by
  have hkept : ¬(100 ∈ lostHalves ∧ share total violations = half 100) := fun h =>
    absurd h.1 (by decide)
  have hpoints := (half_iff_points_of_small htotal hsmall (by decide)).2 hkept
  have hhalf : (100 : Nat) ≤ halfUp total violations ↔ half 100 ≤ share total violations :=
    le_halfUp_iff htotal
  unfold halfUp at hhalf
  rw [Int.le_ediv_iff_mul_le (by omega)] at hhalf
  rw [← Nat.cast_ofNat (n := 100), ← hpoints, ← hhalf]
  omega

theorem score_eq_hundred_iff (htotal : 0 < total) (hsmall : total ≤ 2 ^ 45)
    (hnonneg : 0 ≤ violations) (h : score total violations = .ok s) :
    s = 100 ↔ 200 * violations ≤ total := by
  have hrange := score_mem_range hnonneg h
  have hs := eq_points_of_score htotal h
  rw [← hundred_le_points_iff htotal hsmall]
  omega

example : score 200 1 = .ok 100 := by
  decide +kernel

end

section
variable {registry : Registry} {root : Root} {source : String} {r : AuditResult}

theorem size_pos_of_violations_ne_nil (h : (audit registry root source).value = .ok r)
    (hfound : r.violations ≠ []) : 0 < registry.size := by
  obtain ⟨v, hv⟩ := List.exists_mem_of_ne_nil _ hfound
  rw [Registry.size_eq]
  exact List.length_pos_of_mem (name_mem_of_audit h v hv)

theorem score_mem_range_of_audit (h : (audit registry root source).value = .ok r) :
    0 ≤ r.score ∧ r.score ≤ 100 :=
  score_mem_range (Int.natCast_nonneg _) (score_of_audit h)

theorem full_score_iff_of_size_lt (hsize : registry.size < 200)
    (h : (audit registry root source).value = .ok r) : r.score = 100 ↔ r.violations = [] := by
  have hscore := score_of_audit h
  constructor
  · intro hfull
    by_contra hfound
    have htotal := size_pos_of_violations_ne_nil h hfound
    have hlength := List.length_pos_of_ne_nil hfound
    have := (score_eq_hundred_iff (by omega) (by omega) (by omega) hscore).1 hfull
    omega
  · intro hclean
    rw [hclean, List.length_nil, Nat.cast_zero, score_no_violations] at hscore
    exact (Except.ok.inj hscore).symm

end

theorem Registry.size_keep_le (r : Registry) (p : String → Bool) : (r.keep p).size ≤ r.size :=
  List.length_filter_le _ _

theorem size_enabledRules_lt {disabled : List String} {registry : Registry}
    (h : (enabledRules disabled).value = .ok registry) : registry.size < 200 := by
  rw [value_enabledRules] at h
  cases h
  have hcatalog : Catalog.registry.size < 200 := by decide
  exact (Registry.size_keep_le _ _).trans_lt hcatalog

end MarkupAudit
