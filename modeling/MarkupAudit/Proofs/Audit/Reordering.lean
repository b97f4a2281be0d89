import MarkupAudit.Proofs.Audit.Conditions
import MarkupAudit.Proofs.Audit.Queries

/-! Elements whose attributes are written in another order. As long as the type is written once at
most, every rule reports something on the one exactly when it does on the other, and only the rule on
ARIA attributes may have another message. -/
namespace MarkupAudit

theorem eq_of_perm_of_length_le_one {l l' : List α} (perm : l.Perm l') (hlength : l.length ≤ 1) :
    l = l' := by
  rcases Nat.le_one_iff_eq_zero_or_eq_one.1 hlength with hnone | hone
  · obtain rfl := List.eq_nil_of_length_eq_zero hnone
    exact perm.nil_eq
  · obtain ⟨a, rfl⟩ := List.length_eq_one_iff.1 hone
    exact perm.singleton_eq

section
variable {e : Element} {as : List Attribute} (perm : e.attributes.Perm as)
include perm

theorem Element.bears_reordered {names : List String} :
    ({ e with attributes := as } : Element).Bears names ↔ e.Bears names := by
  simp only [Bears, perm.mem_iff]

theorem Element.literal?_reordered {name : String} (once : e.attributeNames.count name ≤ 1) :
    ({ e with attributes := as } : Element).literal? name = e.literal? name := by
  have hlength : (e.attributes.filter fun a => a.name == name).length ≤ 1 := by
    rw [attributeNames, List.count, List.countP_map, List.countP_eq_length_filter] at once
    exact once
  have hfilter := eq_of_perm_of_length_le_one (perm.filter fun a => a.name == name) hlength
  unfold literal? attribute?
  rw [← List.head?_filter, ← List.head?_filter, hfilter]

theorem Element.sameAnswers_reordered (once : e.attributeNames.count "type" ≤ 1) :
    ({ e with attributes := as } : Element).SameAnswers e where
  tag := rfl
  hasAttribute names := by
    rw [Bool.eq_iff_iff, hasAttribute_iff, hasAttribute_iff, bears_reordered perm]
  inputType := literal?_reordered perm once
  text := rfl
  hasChildTag _ := rfl

namespace Catalog

theorem misusesAria_reordered :
    MisusesAria ({ e with attributes := as } : Element) ↔ MisusesAria e := by
  simp only [MisusesAria, MisusedIn, HidesDescribed, ToggleUnexpanded,
    Element.bears_reordered perm, perm.mem_iff]

theorem isSome_detectAriaValidation_reordered :
    (detectAriaValidation { e with attributes := as }).isSome =
      (detectAriaValidation e).isSome := by
  rw [Bool.eq_iff_iff, Option.isSome_iff_exists, Option.isSome_iff_exists,
    exists_detectAriaValidation, exists_detectAriaValidation, misusesAria_reordered perm]

/-- Apart from the type of a form field, which is written once at most, no rule but the one on ARIA
attributes depends on the order of the attributes. That rule reports something in any order or in
none, if not always with the same severity and message. -/
theorem check_reordered (once : e.attributeNames.count "type" ≤ 1) (source : String) :
    (∀ r ∈ rules, r.name ≠ "aria-validation" →
      r.check ⟨{ e with attributes := as }, source⟩ = r.check ⟨e, source⟩) ∧
    ∃ found found', ariaValidation.check ⟨e, source⟩ = .ok found ∧
      ariaValidation.check ⟨{ e with attributes := as }, source⟩ = .ok found' ∧
      Option.Rel (fun v w => v.name = w.name ∧ v.category = w.category ∧ v.location = w.location)
        found found' := by
  constructor
  · intro r hr hname
    rcases exists_seesAnswers_of_mem_rules r hr with rfl | ⟨detect, hdetect, heq⟩
    · exact absurd rfl hname
    · rw [Rule.check_of_detect heq, Rule.check_of_detect heq,
        hdetect (Element.sameAnswers_reordered perm once)]
      rfl
  · refine ⟨_, _, Rule.check_of_detect rfl _, Rule.check_of_detect rfl _, ?_⟩
    have hsame := isSome_detectAriaValidation_reordered perm
    cases hfound : detectAriaValidation e with
    | none =>
      rw [hfound, Option.isSome_none, Option.isSome_eq_false_iff, Option.isNone_iff_eq_none]
        at hsame
      rw [hsame]
      exact .none
    | some f =>
      rw [hfound, Option.isSome_some, Option.isSome_iff_exists] at hsame
      obtain ⟨g, hg⟩ := hsame
      rw [hg]
      exact .some ⟨rfl, rfl, rfl⟩

end Catalog

end

/-- A form field with a blank label, hidden all the same, and with two names. -/
def hiddenField : Element where
  tag := "input"
  attributes := [⟨"aria-label", .literal " "⟩, ⟨"type", .literal "email"⟩,
    ⟨"aria-hidden", .literal "true"⟩, ⟨"name", .bare⟩, ⟨"name", .literal "to"⟩]

def hiddenFieldReversed : Element :=
  { hiddenField with attributes := hiddenField.attributes.reverse }

/-- The email message stays, and the message on ARIA attributes is that of the one which is first. -/
theorem Catalog.check_reordered_hiddenField :
    hiddenField.attributes.Perm hiddenField.attributes.reverse ∧
    hiddenField.attributeNames.count "type" ≤ 1 ∧
    formValidation ∈ rules ∧ formValidation.name ≠ "aria-validation" ∧
    (∃ v, formValidation.check ⟨hiddenField, ""⟩ = .ok (some v) ∧
      formValidation.check ⟨hiddenFieldReversed, ""⟩ = .ok (some v)) ∧
    ∃ v w, ariaValidation.check ⟨hiddenField, ""⟩ = .ok (some v) ∧
      ariaValidation.check ⟨hiddenFieldReversed, ""⟩ = .ok (some w) ∧
      v.name = w.name ∧ v.severity = "error" ∧ w.severity = "warn" ∧ v.message ≠ w.message := by
  have perm : hiddenField.attributes.Perm hiddenField.attributes.reverse :=
    (List.reverse_perm _).symm
  have once : hiddenField.attributeNames.count "type" ≤ 1 := by
    decide
  have hrule : formValidation ∈ rules := by simp [rules]
  have hname : formValidation.name ≠ "aria-validation" := by decide
  obtain ⟨hsame, found, found', hfound, hfound', hrel⟩ := check_reordered perm once ""
  refine ⟨perm, once, hrule, hname, ?_, ?_⟩
  · have hemail : formValidation.check ⟨hiddenField, ""⟩ = .ok (some ⟨"form-validation",
        "form-semantics", "warn", "Email input should have required attribute for better validation",
        ""⟩) := by
      decide +kernel
    exact ⟨_, hemail, (hsame formValidation hrule hname).trans hemail⟩
  · have hblank : ariaValidation.check ⟨hiddenField, ""⟩ = .ok (some ⟨"aria-validation",
        "accessibility", "error", "aria-label should not be empty", ""⟩) := by
      decide +kernel
    have hhidden : ariaValidation.check ⟨hiddenFieldReversed, ""⟩ = .ok (some ⟨"aria-validation",
        "accessibility", "warn", "aria-hidden=\"true\" should not be used with other ARIA attributes",
        ""⟩) := by
      decide +kernel
    rw [hblank] at hfound
    cases hfound
    cases hfound'.symm.trans hhidden
    cases hrel with
    | some hrel => exact ⟨_, _, hblank, hhidden, hrel.1, rfl, rfl, by decide⟩

end MarkupAudit
