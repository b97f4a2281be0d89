import MarkupAudit.Audit.Catalog

/-! The queries through which the built-in rules look at an element. All rules but the one on ARIA
attributes find the same in two elements that answer them alike. -/
namespace MarkupAudit

/-- Whether two elements answer the queries alike. The literal value that is asked for is that of the
type of a form field. -/
structure Element.SameAnswers (e f : Element) : Prop where
  tag : e.tag = f.tag
  hasAttribute : ∀ names, e.hasAttribute names = f.hasAttribute names
  inputType : e.literal? "type" = f.literal? "type"
  text : e.text = f.text
  hasChildTag : ∀ tags, e.hasChildTag tags = f.hasChildTag tags

namespace Catalog

def SeesAnswers (detect : Element → Option Finding) : Prop :=
  ∀ ⦃e f : Element⦄, e.SameAnswers f → detect e = detect f

theorem seesAnswers_detectMissingLabel : SeesAnswers detectMissingLabel := by
  intro e f h
  unfold detectMissingLabel
  rw [h.tag, h.hasAttribute]

theorem seesAnswers_detectMissingAlt : SeesAnswers detectMissingAlt := by
  intro e f h
  unfold detectMissingAlt
  rw [h.tag, h.hasAttribute]

theorem seesAnswers_detectButtonLabel : SeesAnswers detectButtonLabel := by
  intro e f h
  unfold detectButtonLabel
  rw [h.tag, h.text, h.hasAttribute]

theorem seesAnswers_detectAnchorWithoutHref : SeesAnswers detectAnchorWithoutHref := by
  intro e f h
  unfold detectAnchorWithoutHref
  rw [h.tag, h.hasAttribute]

theorem seesAnswers_detectIframeWithoutTitle : SeesAnswers detectIframeWithoutTitle := by
  intro e f h
  unfold detectIframeWithoutTitle
  rw [h.tag, h.hasAttribute]

theorem seesAnswers_detectHeadingStructure : SeesAnswers detectHeadingStructure := by
  intro e f h
  unfold detectHeadingStructure
  rw [h.tag]

theorem seesAnswers_detectLandmarkElements : SeesAnswers detectLandmarkElements := by
  intro e f h
  unfold detectLandmarkElements
  rw [h.tag, h.hasAttribute, h.hasChildTag]

theorem seesAnswers_detectFormValidation : SeesAnswers detectFormValidation := by
  intro e f h
  unfold detectFormValidation
  simp only [h.tag, h.hasAttribute, h.inputType]

theorem seesAnswers_detectTableAccessibility : SeesAnswers detectTableAccessibility := by
  intro e f h
  unfold detectTableAccessibility
  simp only [h.tag, h.hasAttribute, h.hasChildTag]

theorem seesAnswers_detectKeyboardAccessibility : SeesAnswers detectKeyboardAccessibility := by
  intro e f h
  unfold detectKeyboardAccessibility
  simp only [h.tag, h.hasAttribute]

theorem exists_seesAnswers_of_mem_rules : ∀ r ∈ rules, r = ariaValidation ∨
    ∃ detect, SeesAnswers detect ∧ r.detect = fun ctx => .ok (detect ctx.element) := by
  simp only [rules, List.forall_mem_cons, List.not_mem_nil, false_imp_iff, implies_true, and_true]
  exact ⟨.inr ⟨_, seesAnswers_detectMissingLabel, rfl⟩,
    .inr ⟨_, seesAnswers_detectMissingAlt, rfl⟩,
    .inr ⟨_, seesAnswers_detectButtonLabel, rfl⟩,
    .inr ⟨_, seesAnswers_detectAnchorWithoutHref, rfl⟩,
    .inr ⟨_, seesAnswers_detectIframeWithoutTitle, rfl⟩,
    .inr ⟨_, seesAnswers_detectHeadingStructure, rfl⟩,
    .inr ⟨_, seesAnswers_detectLandmarkElements, rfl⟩,
    .inr ⟨_, seesAnswers_detectFormValidation, rfl⟩,
    .inl trivial,
    .inr ⟨_, seesAnswers_detectTableAccessibility, rfl⟩,
    .inr ⟨_, seesAnswers_detectKeyboardAccessibility, rfl⟩⟩

end Catalog

end MarkupAudit
