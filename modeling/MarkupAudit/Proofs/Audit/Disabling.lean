import MarkupAudit.Proofs.Audit.Independence
import MarkupAudit.Proofs.Audit.Measure

/-! What disabling a rule does to the score: it does not fall when the rule found something, and does
not rise when it found nothing. -/
namespace MarkupAudit

section
variable {registry : Registry} {root : Root} {source : String} {full : AuditResult}

theorem score_of_audit (h : (audit registry root source).value = .ok full) :
    score registry.size full.violations.length = .ok full.score := by
  obtain ⟨tally, s, -, hs, rfl⟩ := audit_eq_ok_iff.1 h
  exact hs

section
variable {name : String} (known : name ∈ registry.names)
  (hfull : (audit registry root source).value = .ok full)
include known hfull

theorem violations_eq_nil_of_size_le_one (hnone : ∀ v ∈ full.violations, v.name ≠ name)
    (hsize : registry.size ≤ 1) : full.violations = [] := by
  have hone : registry.names.length = 1 := by
    have := List.length_pos_of_mem known
    rw [Registry.size_eq] at hsize
    omega
  obtain ⟨only, honly⟩ := List.length_eq_one_iff.1 hone
  rw [honly, List.mem_singleton] at known
  rw [List.eq_nil_iff_forall_not_mem]
  intro v hv
  have hv' := name_mem_of_audit hfull v hv
  rw [honly, List.mem_singleton] at hv'
  exact hnone v hv (hv'.trans known.symm)

variable {rest : Registry} {s : Int} (hsize : rest.size + 1 = registry.size)
  (hscore : score rest.size
    (full.violations.filter fun v => !([name].contains v.name)).length = .ok s)
include hsize hscore

omit known in
theorem score_le_of_found (hfound : ∃ v ∈ full.violations, v.name = name) : full.score ≤ s := by
  obtain ⟨v, hv, hname⟩ := hfound
  have hsplit := List.length_eq_length_filter_add (l := full.violations)
    fun v => [name].contains v.name
  have hpos : 0 < (full.violations.filter fun v => [name].contains v.name).length :=
    List.length_pos_of_mem (List.mem_filter.2 ⟨hv, by simp [hname]⟩)
  generalize (full.violations.filter fun v => [name].contains v.name).length = removed at *
  have hkept : ((full.violations.filter fun v => !([name].contains v.name)).length : Int) =
      full.violations.length - removed := by omega
  have hrest : (rest.size : Int) = registry.size - 1 := by omega
  rw [hkept, hrest] at hscore
  exact score_le_of_removed (by omega) (by omega) (score_of_audit hfull) hscore

theorem score_le_of_not_found (hnone : ∀ v ∈ full.violations, v.name ≠ name) : s ≤ full.score := by
  have hkept : (full.violations.filter fun v => !([name].contains v.name)) = full.violations := by
    rw [List.filter_eq_self]
    intro v hv
    simp [hnone v hv]
  have hrest : (rest.size : Int) = registry.size - 1 := by omega
  rw [hkept, hrest] at hscore
  apply score_le_of_kept (Int.natCast_nonneg _) _ (score_of_audit hfull) hscore
  intro hlast
  rw [violations_eq_nil_of_size_le_one known hfull hnone (by omega)]
  rfl

end

/-- A registry without one of its rules gives a result, unless the violations that are left cannot be
scored. If the rule found something, the score is at least the full one, and if it found nothing, at
most that. -/
theorem audit_without_score {rules : List Rule} {name : String}
    (hregistry : Registry.ofRules rules = .ok registry)
    (hfull : (audit registry root source).value = .ok full) (known : name ∈ registry.names) :
    ∃ rest, registry.without [name] = .ok rest ∧
      ((∃ failure, (audit rest root source).value = .error (.score failure)) ∨
        ∃ reduced, (audit rest root source).value = .ok reduced ∧
          ((∃ v ∈ full.violations, v.name = name) → full.score ≤ reduced.score) ∧
          ((∀ v ∈ full.violations, v.name ≠ name) → reduced.score ≤ full.score)) := by
  have distinct : registry.names.Nodup := by
    obtain ⟨hnodup, rfl⟩ := Registry.ofRules_eq_ok_iff.1 hregistry
    exact hnodup
  have hknown : ∀ n ∈ [name], n ∈ registry.names := List.forall_mem_singleton.2 known
  have hsize := Registry.size_keep_not_contains distinct hknown
  refine ⟨_, (Registry.without_eq_ok_iff distinct).2 ⟨hknown, rfl⟩, ?_⟩
  rw [audit_keep _ hfull]
  cases hreduced : AuditResult.ofViolations _ _ with
  | error failure => exact .inl ⟨failure, rfl⟩
  | ok reduced =>
    obtain ⟨s, hscore, rfl⟩ := ofViolations_eq_ok_iff.1 hreduced
    exact .inr ⟨_, rfl, score_le_of_found hfull hsize hscore,
      score_le_of_not_found known hfull hsize hscore⟩

end

/-- Of the two rules left out in turn here, the first found something and the second nothing. -/
theorem audit_without_score_nestedRoot :
    Registry.ofRules tagRegistry.rules = .ok tagRegistry ∧
    (audit tagRegistry nestedRoot "").value = .ok nestedResult ∧
    (∃ v ∈ nestedResult.violations, v.name = "both") ∧
    (∀ v ∈ nestedResult.violations, v.name ≠ "none") ∧
    ∀ name ∈ ["both", "none"], name ∈ tagRegistry.names ∧
      ∃ rest, tagRegistry.without [name] = .ok rest ∧
        ((∃ failure, (audit rest nestedRoot "").value = .error (.score failure)) ∨
          ∃ reduced, (audit rest nestedRoot "").value = .ok reduced ∧
            ((∃ v ∈ nestedResult.violations, v.name = name) →
              nestedResult.score ≤ reduced.score) ∧
            ((∀ v ∈ nestedResult.violations, v.name ≠ name) →
              reduced.score ≤ nestedResult.score)) := by
  have hregistry : Registry.ofRules tagRegistry.rules = .ok tagRegistry := rfl
  have known : ∀ name ∈ ["both", "none"], name ∈ tagRegistry.names := by decide
  refine ⟨hregistry, audit_nestedRoot, by decide, by decide, ?_⟩
  intro name hname
  exact ⟨known name hname, audit_without_score hregistry audit_nestedRoot (known name hname)⟩

end MarkupAudit
