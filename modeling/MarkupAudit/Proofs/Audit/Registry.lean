import Mathlib.Data.List.Dedup
import Mathlib.Data.List.Nodup
import Mathlib.Data.List.Perm.Basic
import MarkupAudit.Audit.Registry
import MarkupAudit.Proofs.Outcome

/-! Registries derived from one another. Every one of them keeps the rules of the first whose names
pass a test, and no two of its rules share a name. -/
namespace MarkupAudit

theorem firstRepeated_eq_none_iff {seen names : List String} :
    firstRepeated seen names = none ↔ names.Nodup ∧ ∀ name ∈ names, name ∉ seen := by
  induction names generalizing seen with
  | nil => simp [firstRepeated]
  | cons name rest ih =>
    rw [firstRepeated, List.nodup_cons]
    split
    · rename_i hseen
      simp [hseen]
    · rename_i hseen
      rw [ih, List.forall_mem_cons]
      simp only [List.mem_cons, not_or]
      constructor
      · rintro ⟨hnodup, hnew⟩
        exact ⟨⟨fun hmem => (hnew name hmem).1 rfl, hnodup⟩, hseen, fun n hn => (hnew n hn).2⟩
      · rintro ⟨⟨hname, hnodup⟩, -, hnew⟩
        exact ⟨hnodup, fun n hn => ⟨fun heq => hname (heq ▸ hn), hnew n hn⟩⟩

namespace Registry
variable {r s : Registry}

theorem firstRepeated_names_eq_none_iff {names : List String} :
    firstRepeated [] names = none ↔ names.Nodup := by
  rw [firstRepeated_eq_none_iff]
  simp

theorem ofRules_eq_ok_iff {rules : List Rule} :
    ofRules rules = .ok r ↔ (rules.map Rule.name).Nodup ∧ r = ⟨rules⟩ := by
  rw [← firstRepeated_names_eq_none_iff]
  unfold ofRules
  split
  · rename_i name h
    simp [h]
  · rename_i h
    simp [h, eq_comm]

def keep (r : Registry) (p : String → Bool) : Registry :=
  ⟨r.rules.filter fun rule => p rule.name⟩

theorem names_keep (r : Registry) (p : String → Bool) : (r.keep p).names = r.names.filter p := by
  rw [names, names, keep, List.filter_map]
  rfl

theorem nodup_names_keep (distinct : r.names.Nodup) (p : String → Bool) :
    (r.keep p).names.Nodup := by
  rw [names_keep]
  exact distinct.filter p

theorem size_eq (r : Registry) : r.size = r.names.length :=
  (List.length_map _).symm

theorem keep_keep (r : Registry) (p q : String → Bool) :
    (r.keep p).keep q = r.keep fun name => q name && p name := by
  rw [keep, keep, keep, List.filter_filter]

theorem firstUnknown_eq_none_iff {names : List String} :
    r.firstUnknown names = none ↔ ∀ name ∈ names, name ∈ r.names := by
  unfold firstUnknown
  rw [List.find?_eq_none]
  simp [contains]

theorem restrict_eq_ok_iff (distinct : r.names.Nodup) {names : List String} {p : String → Bool} :
    r.restrict names p = .ok s ↔ (∀ name ∈ names, name ∈ r.names) ∧ s = r.keep p := by
  rw [← firstUnknown_eq_none_iff]
  unfold restrict
  split
  · rename_i name h
    simp [h]
  · rename_i h
    rw [ofRules_eq_ok_iff]
    exact ⟨fun hs => ⟨h, hs.2⟩, fun hs => ⟨nodup_names_keep distinct p, hs.2⟩⟩

theorem without_eq_ok_iff (distinct : r.names.Nodup) {names : List String} :
    r.without names = .ok s ↔
      (∀ name ∈ names, name ∈ r.names) ∧ s = r.keep fun name => !names.contains name :=
  restrict_eq_ok_iff distinct

theorem only_eq_ok_iff (distinct : r.names.Nodup) {names : List String} :
    r.only names = .ok s ↔ (∀ name ∈ names, name ∈ r.names) ∧ s = r.keep names.contains :=
  restrict_eq_ok_iff distinct

/-- A way to derive a smaller registry. -/
inductive Derivation where
  | without (names : List String)
  | only (names : List String)

def Derivation.apply (r : Registry) : Derivation → Except RegistryError Registry
  | .without names => r.without names
  | .only names => r.only names

def derive (r : Registry) (steps : List Derivation) : Except RegistryError Registry :=
  steps.foldlM Derivation.apply r

theorem apply_eq_ok (distinct : r.names.Nodup) {step : Derivation}
    (h : step.apply r = .ok s) : s.names.Nodup ∧ ∃ p, s = r.keep p := by
  have hkeep : ∃ p, s = r.keep p := by
    cases step with
    | without names => exact ⟨_, ((without_eq_ok_iff distinct).1 h).2⟩
    | only names => exact ⟨_, ((only_eq_ok_iff distinct).1 h).2⟩
  obtain ⟨p, rfl⟩ := hkeep
  exact ⟨nodup_names_keep distinct p, p, rfl⟩

theorem derive_eq_ok (distinct : r.names.Nodup) {steps : List Derivation}
    (h : r.derive steps = .ok s) : s.names.Nodup ∧ ∃ p, s = r.keep p := by
  induction steps generalizing r with
  | nil =>
    cases h
    refine ⟨distinct, fun _ => true, ?_⟩
    rw [keep, List.filter_true]
  | cons step steps ih =>
    rw [derive, List.foldlM_cons] at h
    obtain ⟨t, hstep, h⟩ := Outcome.bind_eq_ok_iff.1 h
    obtain ⟨ht, p, rfl⟩ := apply_eq_ok distinct hstep
    obtain ⟨hs, q, rfl⟩ := ih ht h
    exact ⟨hs, _, keep_keep r p q⟩

section
variable (distinct : r.names.Nodup) {names : List String}
  (known : ∀ name ∈ names, name ∈ r.names)
include distinct known

theorem size_keep_contains : (r.keep names.contains).size = names.dedup.length := by
  rw [size_eq, names_keep]
  apply List.Perm.length_eq
  apply (List.perm_ext_iff_of_nodup (distinct.filter _) names.nodup_dedup).2
  intro name
  rw [List.mem_filter, List.mem_dedup, List.contains_iff_mem]
  exact ⟨fun h => h.2, fun h => ⟨known name h, h⟩⟩

theorem size_keep_not_contains :
    (r.keep fun name => !names.contains name).size + names.dedup.length = r.size := by
  have hsplit := List.length_eq_length_filter_add (l := r.names) names.contains
  have hkept := size_keep_contains distinct known
  rw [size_eq, names_keep] at hkept ⊢
  rw [size_eq]
  omega

end

end Registry

end MarkupAudit
