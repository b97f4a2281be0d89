import MarkupAudit.Proofs.Audit.Conditions

/-! What becomes of a finding when its message is followed. A message can offer attributes, each of
them as a way out, and once one of these is added the rule reports nothing or something else. The
landmark rule alone offers a label that it does not look for. -/
namespace MarkupAudit

def Element.adding (e : Element) (a : Attribute) : Element :=
  { e with attributes := e.attributes ++ [a] }

theorem Element.bears_adding {e : Element} {a : Attribute} {names : List String} :
    (e.adding a).Bears names ↔ e.Bears names ∨ a.name ∈ names := by
  simp only [Bears, adding, List.mem_append, List.mem_singleton, or_and_right, exists_or,
    exists_eq_left]

namespace Catalog

def remedyTable : List (String × List String) :=
  [("Input element may be missing an associated <label> (no id or label found)", ["id"]),
    ("Select element may be missing an associated <label> (no id or label found)", ["id"]),
    ("Textarea element may be missing an associated <label> (no id or label found)", ["id"]),
    ("<img> tag is missing an alt attribute", ["alt"]),
    ("<button> has no text content or aria-label", ["aria-label"]),
    ("<a> tag is missing an href attribute", ["href"]),
    ("iframe element is missing a title", ["title"]),
    ("section element should have a heading or aria-label for accessibility", ["aria-label"]),
    ("article element should have a heading or aria-label for accessibility", ["aria-label"]),
    ("Email input should have required attribute for better validation", ["required"]),
    ("Password input should have aria-describedby for password requirements",
      ["aria-describedby"]),
    ("Required form field should have aria-label or aria-labelledby",
      ["aria-label", "aria-labelledby"]),
    ("Button with toggle behavior should have aria-expanded attribute", ["aria-expanded"]),
    ("Table should have a caption, aria-label, or summary for accessibility",
      ["aria-label", "summary"]),
    ("Interactive div/span should have tabIndex or role for keyboard accessibility",
      ["tabIndex", "role"]),
    ("Interactive element should support keyboard events (Enter/Space)",
      ["onKeyDown", "onKeyUp", "onKeyPress"]),
    ("Interactive element should have proper ARIA attributes for screen readers",
      ["aria-label", "aria-labelledby", "role"])]

/-- The names of the attributes that a message offers. -/
def remedies (message : String) : List String :=
  ((remedyTable.find? (·.1 = message)).map Prod.snd).getD []

/-- Whether a detector reports something only where none of the attributes that its message offers is
there. -/
def HeedsRemedies (detect : Element → Option Finding) : Prop :=
  ∀ ⦃e f⦄, detect e = some f → ∀ name ∈ remedies f.message, ¬e.Bears [name]

theorem forall_remedies {e : Element} {message : String} {names : List String}
    (hoffered : ∀ name ∈ remedies message, name ∈ names) (hlacks : ¬e.Bears names) :
    ∀ name ∈ remedies message, ¬e.Bears [name] := by
  rintro name hname ⟨a, ha, hmem⟩
  rw [List.mem_singleton] at hmem
  exact hlacks ⟨a, ha, hmem ▸ hoffered name hname⟩

theorem heeds_detectMissingLabel : HeedsRemedies detectMissingLabel := by
  have hoffered : ∀ tag ∈ ["input", "select", "textarea"], ∀ name ∈ remedies (capitalised tag ++
      " element may be missing an associated <label> (no id or label found)"), name ∈ ["id"] := by
    simp [remedies, remedyTable, capitalised]
  intro e f h
  obtain ⟨⟨htag, hlacks⟩, rfl⟩ := detectMissingLabel_eq_some_iff.1 h
  exact forall_remedies (hoffered e.tag htag) hlacks

theorem heeds_missing {tag name message : String}
    (hoffered : ∀ n ∈ remedies message, n ∈ [name]) :
    HeedsRemedies fun e =>
      if e.tag != tag || e.hasAttribute [name] then none else finding message := by
  intro e f h
  obtain ⟨⟨-, hlacks⟩, rfl⟩ := missing_eq_some_iff.1 h
  exact forall_remedies hoffered hlacks

theorem heeds_detectButtonLabel : HeedsRemedies detectButtonLabel := by
  intro e f h
  obtain ⟨⟨-, hlacks, -⟩, rfl⟩ := detectButtonLabel_eq_some_iff.1 h
  exact forall_remedies (by simp [remedies, remedyTable]) hlacks

theorem heeds_detectHeadingStructure : HeedsRemedies detectHeadingStructure := by
  have hnone : remedies
      "Ensure this h1 is the main heading and there is only one h1 per page" = [] := by
    simp [remedies, remedyTable]
  intro e f h
  obtain ⟨-, rfl⟩ := detectHeadingStructure_eq_some_iff.1 h
  rw [hnone]
  exact List.forall_mem_nil _

theorem heeds_detectFormValidation : HeedsRemedies detectFormValidation := by
  intro e f h
  rcases (detectFormValidation_eq_some_iff.1 h).2 with
    ⟨⟨-, -, hoptional⟩, rfl⟩ | ⟨-, ⟨⟨-, -, hundescribed⟩, rfl⟩ | ⟨-, ⟨-, hunnamed⟩, rfl⟩⟩
  · exact forall_remedies (by simp [remedies, remedyTable]) hoptional
  · exact forall_remedies (by simp [remedies, remedyTable]) hundescribed
  · exact forall_remedies (by simp [remedies, remedyTable]) hunnamed

theorem remedies_ariaFinding {e : Element} {a : Attribute} {f : Finding}
    (h : ariaFinding e.ariaAttributes a = some f) : remedies f.message = [] := by
  have hreference : ∀ name ∈ ["aria-labelledby", "aria-describedby"],
      remedies (name ++ " should reference a valid element ID") = [] := by
    simp only [List.forall_mem_cons, String.reduceAppend]
    simp [remedies, remedyTable]
  rcases ariaFinding_eq_some_iff.1 h with ⟨-, rfl⟩ | ⟨-, rfl⟩ | ⟨⟨hname, -⟩, rfl⟩
  · simp [remedies, remedyTable]
  · simp [remedies, remedyTable]
  · exact hreference a.name hname

theorem heeds_detectAriaValidation : HeedsRemedies detectAriaValidation := by
  intro e f h
  rcases (detectAriaValidation_eq_some_iff.1 h).2.2 with hfound | ⟨-, ⟨-, -, hunexpanded⟩, rfl⟩
  · obtain ⟨a, -, ha⟩ := List.exists_of_findSome?_eq_some hfound
    rw [remedies_ariaFinding ha]
    exact List.forall_mem_nil _
  · exact forall_remedies (by simp [remedies, remedyTable]) hunexpanded

theorem heeds_detectTableAccessibility : HeedsRemedies detectTableAccessibility := by
  have hnone : remedies
      "Table should have proper header structure (thead) for accessibility" = [] := by
    simp [remedies, remedyTable]
  intro e f h
  rcases (detectTableAccessibility_eq_some_iff.1 h).2 with ⟨⟨-, hlacks⟩, rfl⟩ | ⟨-, -, rfl⟩
  · exact forall_remedies (by simp [remedies, remedyTable]) hlacks
  · rw [hnone]
    exact List.forall_mem_nil _

theorem heeds_detectKeyboardAccessibility : HeedsRemedies detectKeyboardAccessibility := by
  intro e f h
  rcases (detectKeyboardAccessibility_eq_some_iff.1 h).2.2 with
    ⟨⟨-, hunreachable⟩, rfl⟩ | ⟨-, ⟨hunpressable, rfl⟩ | ⟨-, hunannounced, rfl⟩⟩
  · exact forall_remedies (by simp [remedies, remedyTable]) hunreachable
  · exact forall_remedies (by simp [remedies, remedyTable]) hunpressable
  · exact forall_remedies (by simp [remedies, remedyTable]) hunannounced

theorem detectLandmarkElements_adding {e : Element} {a : Attribute} (h : a.name ≠ "role") :
    detectLandmarkElements (e.adding a) = detectLandmarkElements e := by
  have hrole : (e.adding a).Bears ["role"] ↔ e.Bears ["role"] := by
    rw [Element.bears_adding, List.mem_singleton, or_iff_left h]
  apply Option.ext
  intro f
  rw [detectLandmarkElements_eq_some_iff, detectLandmarkElements_eq_some_iff, LacksHeading,
    LacksHeading, hrole]
  rfl

theorem remedies_detectLandmarkElements {e : Element} {f : Finding}
    (h : detectLandmarkElements e = some f) : remedies f.message = ["aria-label"] := by
  have hremedies : ∀ tag ∈ ["section", "article"], remedies
      (tag ++ " element should have a heading or aria-label for accessibility") =
        ["aria-label"] := by
    simp only [List.forall_mem_cons, String.reduceAppend]
    simp [remedies, remedyTable]
  obtain ⟨⟨htag, -⟩, rfl⟩ := detectLandmarkElements_eq_some_iff.1 h
  exact hremedies e.tag htag

section
variable {e : Element} {r : Rule} {source name : String} {v : Violation}

theorem check_landmarkElements_adding
    (hreported : landmarkElements.check ⟨e, source⟩ = .ok (some v))
    (hname : name ∈ remedies v.message) (value : AttributeValue) :
    landmarkElements.check ⟨e.adding ⟨name, value⟩, source⟩ = .ok (some v) := by
  rw [Rule.check_of_detect rfl] at hreported
  obtain ⟨f, hf, rfl⟩ := Option.map_eq_some_iff.1 (Except.ok.inj hreported)
  have hlabel : name ∈ ["aria-label"] := remedies_detectLandmarkElements hf ▸ hname
  have hrole : name ≠ "role" := by
    rw [List.mem_singleton.1 hlabel]
    decide
  have hsame : detectLandmarkElements (e.adding ⟨name, value⟩) = some f :=
    (detectLandmarkElements_adding hrole).trans hf
  rw [Rule.check_of_detect rfl, hsame]
  rfl

theorem message_ne_of_heeds {detect : Element → Option Finding} {w : Violation}
    (hheeds : HeedsRemedies detect) (hname : name ∈ remedies v.message) (value : AttributeValue)
    (hw : (detect (e.adding ⟨name, value⟩)).map (r.violation (e.adding ⟨name, value⟩)) = some w) :
    w.message ≠ v.message := by
  obtain ⟨f, hf, rfl⟩ := Option.map_eq_some_iff.1 hw
  intro hmessage
  rw [← hmessage] at hname
  exact hheeds hf name hname (Element.bears_adding.2 (.inr List.mem_cons_self))

theorem exists_heeds_of_mem_rules : ∀ r ∈ rules, r = landmarkElements ∨
    r.name ≠ "landmark-elements" ∧ ∃ detect, HeedsRemedies detect ∧
      r.detect = fun ctx => .ok (detect ctx.element) := by
  simp only [rules, List.forall_mem_cons, List.not_mem_nil, false_imp_iff, implies_true, and_true]
  exact ⟨.inr ⟨by decide, _, heeds_detectMissingLabel, rfl⟩,
    .inr ⟨by decide, _, heeds_missing (by simp [remedies, remedyTable]), rfl⟩,
    .inr ⟨by decide, _, heeds_detectButtonLabel, rfl⟩,
    .inr ⟨by decide, _, heeds_missing (by simp [remedies, remedyTable]), rfl⟩,
    .inr ⟨by decide, _, heeds_missing (by simp [remedies, remedyTable]), rfl⟩,
    .inr ⟨by decide, _, heeds_detectHeadingStructure, rfl⟩,
    .inl trivial,
    .inr ⟨by decide, _, heeds_detectFormValidation, rfl⟩,
    .inr ⟨by decide, _, heeds_detectAriaValidation, rfl⟩,
    .inr ⟨by decide, _, heeds_detectTableAccessibility, rfl⟩,
    .inr ⟨by decide, _, heeds_detectKeyboardAccessibility, rfl⟩⟩

/-- Where a rule of the catalog reported something and its message offers an attribute, one with that
name is added. Then the rule reports nothing or has another message, unless it is the landmark rule,
which reports the same again. -/
theorem check_adding (hr : r ∈ rules) (hreported : r.check ⟨e, source⟩ = .ok (some v))
    (hname : name ∈ remedies v.message) (value : AttributeValue) :
    ∃ found, r.check ⟨e.adding ⟨name, value⟩, source⟩ = .ok found ∧
      (r.name ≠ "landmark-elements" → ∀ w ∈ found, w.message ≠ v.message) ∧
      (r.name = "landmark-elements" → found = some v) := by
  rcases exists_heeds_of_mem_rules r hr with rfl | ⟨hother, detect, hheeds, hdetect⟩
  · exact ⟨some v, check_landmarkElements_adding hreported hname value,
      fun h => absurd rfl h, fun _ => rfl⟩
  · exact ⟨_, Rule.check_of_detect hdetect _,
      fun _ _ hw => message_ne_of_heeds hheeds hname value hw, fun h => absurd h hother⟩

end

/-- An email field that is not required, and is required once the message is followed. -/
def emailField : Element :=
  { tag := "input", attributes := [⟨"type", .literal "email"⟩] }

def emailViolation : Violation :=
  ⟨"form-validation", "form-semantics", "warn",
    "Email input should have required attribute for better validation", ""⟩

theorem check_adding_emailField :
    formValidation ∈ rules ∧ formValidation.check ⟨emailField, ""⟩ = .ok (some emailViolation) ∧
    "required" ∈ remedies emailViolation.message ∧
    ∃ w, formValidation.check ⟨emailField.adding ⟨"required", .literal "yes"⟩, ""⟩ =
      .ok (some w) ∧ w.message ≠ emailViolation.message := by
  have hrule : formValidation ∈ rules := by simp [rules]
  have hreported : formValidation.check ⟨emailField, ""⟩ = .ok (some emailViolation) := by
    decide +kernel
  have hname : "required" ∈ remedies emailViolation.message := by
    simp [remedies, remedyTable, emailViolation]
  have hunnamed : formValidation.check ⟨emailField.adding ⟨"required", .literal "yes"⟩, ""⟩ =
      .ok (some { emailViolation with
        message := "Required form field should have aria-label or aria-labelledby" }) := by
    decide +kernel
  obtain ⟨found, hfound, hgone, -⟩ := check_adding hrule hreported hname (.literal "yes")
  rw [hunnamed] at hfound
  cases hfound
  exact ⟨hrule, hreported, hname, _, hunnamed, hgone (by decide) _ rfl⟩

def plainSection : Element :=
  { tag := "section" }

def sectionViolation : Violation :=
  ⟨"landmark-elements", "accessibility", "warn",
    "section element should have a heading or aria-label for accessibility", ""⟩

theorem check_adding_plainSection :
    landmarkElements ∈ rules ∧
    landmarkElements.check ⟨plainSection, ""⟩ = .ok (some sectionViolation) ∧
    "aria-label" ∈ remedies sectionViolation.message ∧ Text.isAllBlank "News" = false ∧
    landmarkElements.check ⟨plainSection.adding ⟨"aria-label", .literal "News"⟩, ""⟩ =
      .ok (some sectionViolation) := by
  have hrule : landmarkElements ∈ rules := by simp [rules]
  exact ⟨hrule, by decide +kernel, by decide +kernel, by decide +kernel, by decide +kernel⟩

end Catalog

end MarkupAudit
