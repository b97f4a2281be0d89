import Mathlib.Data.Bool.Basic
import Mathlib.Data.List.Forall2
import Mathlib.Logic.Basic
import MarkupAudit.Audit.Catalog

/-! When the built-in rules report something. The condition of a rule names tags, attributes and
children, and says of each only whether it is there; where the order in which they are written could
matter, it is that of `type` attributes alone. -/
namespace MarkupAudit

namespace Element

def Bears (e : Element) (names : List String) : Prop :=
  ∃ a ∈ e.attributes, a.name ∈ names

def FirstIs (e : Element) (name value : String) : Prop :=
  ∃ before after, e.attributes = before ++ ⟨name, .literal value⟩ :: after ∧
    ∀ a ∈ before, a.name ≠ name

def Holds (e : Element) (tags : List String) : Prop :=
  ∃ c, .element c ∈ e.children ∧ c.tag ∈ tags

/-- Whether the direct text children are blank. -/
def Wordless (e : Element) : Prop :=
  ∀ s, .text s ∈ e.children → ∀ c ∈ s.toList, Text.isBlank c = true

def Required (e : Element) : Prop :=
  e.Bears ["required", "aria-required"]

theorem bears_append (e : Element) (names more : List String) :
    e.Bears (names ++ more) ↔ e.Bears names ∨ e.Bears more := by
  simp only [Bears, List.mem_append, and_or_left, exists_or]

theorem hasAttribute_iff {e : Element} {names : List String} :
    e.hasAttribute names = true ↔ e.Bears names := by
  simp only [hasAttribute, List.any_eq_true, List.contains_iff_mem]
  rfl

theorem mem_childElements {e c : Element} : c ∈ e.childElements ↔ .element c ∈ e.children := by
  unfold childElements
  rw [List.mem_filterMap]
  constructor
  · rintro ⟨n, hn, hc⟩
    cases n <;> cases hc
    exact hn
  · exact fun hc => ⟨_, hc, rfl⟩

theorem mem_filterMap_text? {nodes : List Node} {s : String} :
    s ∈ nodes.filterMap Node.text? ↔ .text s ∈ nodes := by
  rw [List.mem_filterMap]
  constructor
  · rintro ⟨n, hn, hs⟩
    cases n <;> cases hs
    exact hn
  · exact fun hs => ⟨_, hs, rfl⟩

theorem hasChildTag_iff {e : Element} {tags : List String} :
    e.hasChildTag tags = true ↔ e.Holds tags := by
  simp only [hasChildTag, List.any_eq_true, List.contains_iff_mem, mem_childElements]
  rfl

theorem text_eq_empty_iff {e : Element} : e.text = "" ↔ e.Wordless := by
  have hjoin : ∀ c, c ∈ (String.join (e.children.filterMap Node.text?)).toList ↔
      ∃ s, .text s ∈ e.children ∧ c ∈ s.toList := by
    intro c
    simp only [String.toList_join, List.mem_flatMap, mem_filterMap_text?]
  rw [text, Text.trim_eq_empty_iff, Text.isAllBlank, List.all_eq_true]
  simp only [hjoin]
  constructor
  · exact fun h s hs c hc => h c ⟨s, hs, hc⟩
  · rintro h c ⟨s, hs, hc⟩
    exact h s hs c hc

end Element

theorem Attribute.literal?_eq_some_iff {a : Attribute} {value : String} :
    a.literal? = some value ↔ a.value = .literal value := by
  obtain ⟨name, v⟩ := a
  cases v <;> simp [Attribute.literal?, AttributeValue.literal?]

theorem Element.literal?_eq_some_iff {e : Element} {name value : String} :
    e.literal? name = some value ↔ e.FirstIs name value := by
  unfold literal? attribute? FirstIs
  rw [Option.bind_eq_some_iff]
  simp only [List.find?_eq_some_iff_append, Attribute.literal?_eq_some_iff, beq_iff_eq,
    Bool.not_eq_true', beq_eq_false_iff_ne]
  constructor
  · rintro ⟨⟨_, _⟩, ⟨rfl, before, after, heq, hbefore⟩, rfl⟩
    exact ⟨before, after, heq, hbefore⟩
  · rintro ⟨before, after, heq, hbefore⟩
    exact ⟨_, ⟨rfl, before, after, heq, hbefore⟩, rfl⟩

theorem Rule.check_of_detect {r : Rule} {detect : Element → Option Finding}
    (h : r.detect = fun ctx => .ok (detect ctx.element)) (ctx : RuleContext) :
    r.check ctx = .ok ((detect ctx.element).map (r.violation ctx.element)) := by
  rw [Rule.check, h]
  rfl

/-- Whether a rule comes to a result on any element, and reports something exactly when the element
meets the condition. -/
def Rule.Tests (r : Rule) (condition : Element → Prop) : Prop :=
  ∀ ctx, ∃ found, r.check ctx = .ok found ∧ (found.isSome ↔ condition ctx.element)

namespace Catalog
variable {e : Element} {f : Finding}

/-! The condition of each rule, and the finding that comes with it. -/

theorem finding_eq_some_iff {message : String} {severity : Option Severity} :
    finding message severity = some f ↔ f = ⟨message, severity.map Severity.name⟩ := by
  rw [finding, Option.some.injEq, eq_comm]

def Lacks (tags : List String) (name : String) (e : Element) : Prop :=
  e.tag ∈ tags ∧ ¬e.Bears [name]

theorem detectMissingLabel_eq_some_iff : detectMissingLabel e = some f ↔
    Lacks ["input", "select", "textarea"] "id" e ∧ f = ⟨capitalised e.tag ++
      " element may be missing an associated <label> (no id or label found)", none⟩ := by
  unfold detectMissingLabel Lacks
  simp only [ite_eq_iff, reduceCtorEq, and_false, false_or, finding_eq_some_iff, Bool.or_eq_true,
    Bool.not_iff_not, not_or, not_not, List.contains_iff_mem, Element.hasAttribute_iff]
  rfl

theorem missing_eq_some_iff {tag name message : String} :
    (if e.tag != tag || e.hasAttribute [name] then none else finding message) = some f ↔
      Lacks [tag] name e ∧ f = ⟨message, none⟩ := by
  unfold Lacks
  simp only [ite_eq_iff, reduceCtorEq, and_false, false_or, finding_eq_some_iff, Bool.or_eq_true,
    bne_iff_ne, not_or, not_not, Element.hasAttribute_iff, List.mem_singleton]
  rfl

def UnlabelledButton (e : Element) : Prop :=
  e.tag = "button" ∧ ¬e.Bears ["aria-label"] ∧ e.Wordless

theorem detectButtonLabel_eq_some_iff : detectButtonLabel e = some f ↔
    UnlabelledButton e ∧ f = ⟨"<button> has no text content or aria-label", none⟩ := by
  unfold detectButtonLabel UnlabelledButton
  simp only [ite_eq_iff, reduceCtorEq, and_false, false_or, finding_eq_some_iff, Bool.or_eq_true,
    bne_iff_ne, not_or, not_not, Element.hasAttribute_iff, Element.text_eq_empty_iff]
  rw [and_comm (a := e.Wordless), and_assoc, and_assoc, and_assoc]
  rfl

def IsMainHeading (e : Element) : Prop :=
  e.tag = "h1"

theorem detectHeadingStructure_eq_some_iff : detectHeadingStructure e = some f ↔
    IsMainHeading e ∧
      f = ⟨"Ensure this h1 is the main heading and there is only one h1 per page", "info"⟩ := by
  unfold detectHeadingStructure IsMainHeading
  simp only [ite_eq_iff, reduceCtorEq, and_false, or_false, finding_eq_some_iff, beq_iff_eq]
  rfl

def LacksHeading (e : Element) : Prop :=
  e.tag ∈ ["section", "article"] ∧ ¬e.Bears ["role"] ∧
    ¬e.Holds ["h1", "h2", "h3", "h4", "h5", "h6"]

theorem detectLandmarkElements_eq_some_iff : detectLandmarkElements e = some f ↔
    LacksHeading e ∧
      f = ⟨e.tag ++ " element should have a heading or aria-label for accessibility", none⟩ := by
  have hlandmark : ∀ tag ∈ sectioningTags, tag ∈ landmarkTags := by decide
  unfold detectLandmarkElements LacksHeading
  simp only [ite_eq_iff, reduceCtorEq, and_false, false_or, finding_eq_some_iff, Bool.or_eq_true,
    Bool.not_iff_not, not_or, not_not, List.contains_iff_mem, Element.hasAttribute_iff,
    Element.hasChildTag_iff, and_assoc]
  rw [and_iff_right_of_imp fun h => hlandmark _ h.1]
  rfl

def EmailOptional (e : Element) : Prop :=
  e.tag = "input" ∧ e.FirstIs "type" "email" ∧ ¬e.Required

def PasswordUndescribed (e : Element) : Prop :=
  e.tag = "input" ∧ e.FirstIs "type" "password" ∧ ¬e.Bears ["aria-describedby"]

def RequiredUnnamed (e : Element) : Prop :=
  e.Required ∧ ¬e.Bears ["aria-label", "aria-labelledby"]

def LacksValidation (e : Element) : Prop :=
  e.tag ∈ ["input", "select", "textarea"] ∧
    (EmailOptional e ∨ PasswordUndescribed e ∨ RequiredUnnamed e)

theorem inputType_eq_iff {value : String} :
    ((if e.tag == "input" then e.literal? "type" else none) == some value) = true ↔
      e.tag = "input" ∧ e.FirstIs "type" value := by
  rw [beq_iff_eq, ite_eq_iff, beq_iff_eq, Element.literal?_eq_some_iff]
  simp

theorem detectFormValidation_eq_some_iff : detectFormValidation e = some f ↔
    e.tag ∈ ["input", "select", "textarea"] ∧
      (EmailOptional e ∧
          f = ⟨"Email input should have required attribute for better validation", "warn"⟩ ∨
        ¬EmailOptional e ∧
          (PasswordUndescribed e ∧
              f = ⟨"Password input should have aria-describedby for password requirements",
                "info"⟩ ∨
            ¬PasswordUndescribed e ∧ RequiredUnnamed e ∧
              f = ⟨"Required form field should have aria-label or aria-labelledby",
                "warn"⟩)) := by
  unfold detectFormValidation EmailOptional PasswordUndescribed RequiredUnnamed
  dsimp only
  simp only [ite_eq_iff, reduceCtorEq, and_false, false_or, or_false, finding_eq_some_iff,
    Bool.and_eq_true, Bool.not_iff_not, not_not, List.contains_iff_mem, Element.hasAttribute_iff,
    inputType_eq_iff, and_assoc]
  rfl

def BlankAmong (names : List String) (a : Attribute) : Prop :=
  a.name ∈ names ∧ ∃ value, a.value = .literal value ∧ ∀ c ∈ value.toList, Text.isBlank c = true

theorem blankAmong_append (names more : List String) (a : Attribute) :
    BlankAmong (names ++ more) a ↔ BlankAmong names a ∨ BlankAmong more a := by
  simp only [BlankAmong, List.mem_append, or_and_right]

/-- Whether the attribute hides its element, and another one describes the element all the same. -/
def HidesDescribed (e : Element) (a : Attribute) : Prop :=
  a.name = "aria-hidden" ∧ a.value = .literal "true" ∧
    ∃ other ∈ e.attributes, "aria-".toList <+: other.name.toList ∧ other.name ≠ "aria-hidden"

def ToggleUnexpanded (e : Element) : Prop :=
  e.tag = "button" ∧ e.Bears ["onClick", "onToggle"] ∧ ¬e.Bears ["aria-expanded"]

def MisusedIn (e : Element) (a : Attribute) : Prop :=
  BlankAmong ["aria-label", "aria-labelledby", "aria-describedby"] a ∨ HidesDescribed e a

/-- Member and namespaced tags are passed over. -/
def MisusesAria (e : Element) : Prop :=
  '.' ∉ e.tag.toList ∧ ':' ∉ e.tag.toList ∧
    ((∃ a ∈ e.attributes, MisusedIn e a) ∨ ToggleUnexpanded e)

theorem mem_ariaAttributes {a : Attribute} :
    a ∈ e.ariaAttributes ↔ a ∈ e.attributes ∧ "aria-".toList <+: a.name.toList := by
  rw [Element.ariaAttributes, List.mem_filter, Attribute.isAria, List.isPrefixOf_iff_prefix]

/-- The three findings exclude each other by the name of the attribute, so that their order is of no
account. -/
theorem ariaFinding_eq_some_iff {a : Attribute} : ariaFinding e.ariaAttributes a = some f ↔
    BlankAmong ["aria-label"] a ∧ f = ⟨"aria-label should not be empty", "error"⟩ ∨
    HidesDescribed e a ∧
      f = ⟨"aria-hidden=\"true\" should not be used with other ARIA attributes", "warn"⟩ ∨
    BlankAmong ["aria-labelledby", "aria-describedby"] a ∧
      f = ⟨a.name ++ " should reference a valid element ID", "error"⟩ := by
  unfold ariaFinding BlankAmong HidesDescribed
  simp only [← Attribute.literal?_eq_some_iff]
  cases a.literal? with
  | none => simp
  | some value =>
    simp only [ite_eq_iff, reduceCtorEq, and_false, or_false, finding_eq_some_iff,
      Bool.and_eq_true, beq_iff_eq, bne_iff_ne, List.contains_iff_mem, List.any_eq_true,
      Text.isAllBlank, List.all_eq_true, mem_ariaAttributes, Option.some.injEq, exists_eq_left',
      List.mem_singleton, and_assoc, Option.map_some, Severity.name]
    by_cases hlabel : a.name = "aria-label"
    · simp [hlabel]
    · by_cases hhidden : a.name = "aria-hidden"
      · simp [hhidden]
      · simp [hlabel, hhidden]

theorem isSome_ariaFinding {a : Attribute} :
    (ariaFinding e.ariaAttributes a).isSome ↔ MisusedIn e a := by
  have hblank : BlankAmong ["aria-label", "aria-labelledby", "aria-describedby"] a ↔
      BlankAmong ["aria-label"] a ∨ BlankAmong ["aria-labelledby", "aria-describedby"] a :=
    blankAmong_append ["aria-label"] ["aria-labelledby", "aria-describedby"] a
  rw [Option.isSome_iff_exists, MisusedIn, hblank, or_right_comm, or_assoc]
  simp only [ariaFinding_eq_some_iff, exists_or, exists_and_left, exists_eq, and_true]

theorem MisusedIn.isAria {a : Attribute} (h : MisusedIn e a) :
    "aria-".toList <+: a.name.toList := by
  have haria : ∀ name ∈ ["aria-hidden", "aria-label", "aria-labelledby", "aria-describedby"],
      "aria-".toList <+: name.toList := by
    decide
  rcases h with h | h
  · exact haria _ (List.mem_cons_of_mem _ h.1)
  · rw [h.1]
    exact haria _ List.mem_cons_self

theorem findSome?_ariaFinding_eq_none_iff :
    e.ariaAttributes.findSome? (ariaFinding e.ariaAttributes) = none ↔
      ¬∃ a ∈ e.attributes, MisusedIn e a := by
  rw [← Option.not_isSome_iff_eq_none, List.findSome?_isSome_iff]
  simp only [isSome_ariaFinding, mem_ariaAttributes]
  exact not_congr
    (exists_congr fun a => ⟨fun h => ⟨h.1.1, h.2⟩, fun h => ⟨⟨h.1, h.2.isAria⟩, h.2⟩⟩)

theorem detectAriaValidation_eq_some_iff : detectAriaValidation e = some f ↔
    '.' ∉ e.tag.toList ∧ ':' ∉ e.tag.toList ∧
      (e.ariaAttributes.findSome? (ariaFinding e.ariaAttributes) = some f ∨
        (¬∃ a ∈ e.attributes, MisusedIn e a) ∧ ToggleUnexpanded e ∧
          f = ⟨"Button with toggle behavior should have aria-expanded attribute", "warn"⟩) := by
  rw [← findSome?_ariaFinding_eq_none_iff]
  unfold detectAriaValidation ToggleUnexpanded
  simp only [ite_eq_iff, reduceCtorEq, and_false, false_or, Bool.or_eq_true, not_or,
    List.contains_iff_mem, and_assoc]
  cases e.ariaAttributes.findSome? (ariaFinding e.ariaAttributes) with
  | none =>
    simp only [ite_eq_iff, reduceCtorEq, and_false, false_or, or_false, true_and,
      finding_eq_some_iff, Bool.and_eq_true, Bool.not_iff_not, beq_iff_eq,
      Element.hasAttribute_iff, and_assoc]
    rfl
  | some g => simp only [reduceCtorEq, false_and, or_false]

def LacksCaption (e : Element) : Prop :=
  ¬e.Holds ["caption"] ∧ ¬e.Bears ["aria-label", "aria-labelledby", "summary"]

def LacksTableParts (e : Element) : Prop :=
  e.tag = "table" ∧ (LacksCaption e ∨ ¬e.Holds ["thead"])

theorem detectTableAccessibility_eq_some_iff : detectTableAccessibility e = some f ↔
    e.tag = "table" ∧
      (LacksCaption e ∧
          f = ⟨"Table should have a caption, aria-label, or summary for accessibility", none⟩ ∨
        ¬LacksCaption e ∧ ¬e.Holds ["thead"] ∧
          f = ⟨"Table should have proper header structure (thead) for accessibility", none⟩) := by
  have hbears : e.Bears ["aria-label", "aria-labelledby", "summary"] ↔
      e.Bears namingAttributes ∨ e.Bears ["summary"] :=
    e.bears_append namingAttributes ["summary"]
  unfold detectTableAccessibility LacksCaption
  simp only [hbears, ite_eq_iff, reduceCtorEq, and_false, false_or, or_false, finding_eq_some_iff,
    bne_iff_ne, not_not, not_or, Bool.and_eq_true, Bool.not_iff_not, Element.hasAttribute_iff,
    Element.hasChildTag_iff, and_assoc]
  rfl

def Unreachable (e : Element) : Prop :=
  e.tag ∈ ["div", "span"] ∧ ¬e.Bears ["tabIndex", "role"]

def LacksKeyboard (e : Element) : Prop :=
  e.tag ∈ ["button", "a", "input", "select", "textarea", "div", "span"] ∧
    e.Bears ["onClick", "onKeyDown", "onKeyUp"] ∧
    (Unreachable e ∨ ¬e.Bears ["onKeyDown", "onKeyUp", "onKeyPress"] ∨
      ¬e.Bears ["aria-label", "aria-labelledby", "role"])

theorem detectKeyboardAccessibility_eq_some_iff : detectKeyboardAccessibility e = some f ↔
    e.tag ∈ ["button", "a", "input", "select", "textarea", "div", "span"] ∧
      e.Bears ["onClick", "onKeyDown", "onKeyUp"] ∧
      (Unreachable e ∧
          f = ⟨"Interactive div/span should have tabIndex or role for keyboard accessibility",
            "error"⟩ ∨
        ¬Unreachable e ∧
          (¬e.Bears ["onKeyDown", "onKeyUp", "onKeyPress"] ∧
              f = ⟨"Interactive element should support keyboard events (Enter/Space)", "warn"⟩ ∨
            ¬¬e.Bears ["onKeyDown", "onKeyUp", "onKeyPress"] ∧
              ¬e.Bears ["aria-label", "aria-labelledby", "role"] ∧
              f = ⟨"Interactive element should have proper ARIA attributes for screen readers",
                "warn"⟩)) := by
  have hreach : e.Bears ["tabIndex", "role"] ↔ e.Bears ["tabIndex"] ∨ e.Bears ["role"] :=
    e.bears_append ["tabIndex"] ["role"]
  have hnamed : e.Bears ["aria-label", "aria-labelledby", "role"] ↔
      e.Bears namingAttributes ∨ e.Bears ["role"] :=
    e.bears_append namingAttributes ["role"]
  unfold detectKeyboardAccessibility Unreachable interactiveTags clickHandlers keyboardHandlers
  dsimp only
  simp only [hreach, hnamed, ite_eq_iff, reduceCtorEq, and_false, false_or, or_false,
    finding_eq_some_iff, Bool.and_eq_true, Bool.not_iff_not, not_not, Element.hasAttribute_iff,
    List.contains_iff_mem, not_or, and_assoc]
  by_cases hhandled : e.Bears ["onClick", "onKeyDown", "onKeyUp"]
  · simp only [hhandled, not_true_eq_false, false_and, not_false_eq_true, true_and, not_not]
    rfl
  -- a role that comes without a handler passes the last test, and the others ask for a handler
  · simp only [hhandled, not_false_eq_true, true_and, false_and, and_false, false_or, not_not,
      iff_false, not_and]
    intro _ hrole _ hnone
    exact absurd hrole hnone

/-! The conditions together. -/

/-- The conditions of the rules, in the order of the catalog. -/
def conditions : List (Element → Prop) :=
  [Lacks ["input", "select", "textarea"] "id", Lacks ["img"] "alt", UnlabelledButton,
    Lacks ["a"] "href", Lacks ["iframe"] "title", IsMainHeading, LacksHeading, LacksValidation,
    MisusesAria, LacksTableParts, LacksKeyboard]

theorem exists_first_iff {p : Prop} {first : Finding} {later : Finding → Prop} :
    (∃ f, p ∧ f = first ∨ ¬p ∧ later f) ↔ p ∨ ∃ f, later f := by
  by_cases hp : p <;> simp [hp]

theorem tests_of_exists {name description : String} {category : Category} {severity : Severity}
    {detect : Element → Option Finding} {condition : Element → Prop}
    (h : ∀ e, (∃ f, detect e = some f) ↔ condition e) :
    (rule name description category severity detect).Tests condition := by
  intro ctx
  refine ⟨_, Rule.check_of_detect rfl ctx, ?_⟩
  rw [Option.isSome_map, Option.isSome_iff_exists]
  exact h ctx.element

theorem tests_of_finding {name description : String} {category : Category} {severity : Severity}
    {detect : Element → Option Finding} {condition : Element → Prop} {found : Element → Finding}
    (h : ∀ {e f}, detect e = some f ↔ condition e ∧ f = found e) :
    (rule name description category severity detect).Tests condition :=
  tests_of_exists fun e => by simp only [h, exists_and_left, exists_eq, and_true]

theorem tests_formValidation : formValidation.Tests LacksValidation := by
  apply tests_of_exists
  intro e
  simp only [detectFormValidation_eq_some_iff, exists_and_left, exists_first_iff, exists_eq,
    and_true]
  rfl

theorem exists_detectAriaValidation : (∃ f, detectAriaValidation e = some f) ↔ MisusesAria e := by
  simp only [detectAriaValidation_eq_some_iff, exists_and_left, exists_or, exists_eq, and_true,
    ← Option.isSome_iff_exists, Option.isSome_iff_ne_none, ne_eq,
    findSome?_ariaFinding_eq_none_iff, not_not]
  rw [MisusesAria, or_and_left, and_iff_right (em _)]

theorem tests_ariaValidation : ariaValidation.Tests MisusesAria :=
  tests_of_exists fun _ => exists_detectAriaValidation

theorem tests_tableAccessibility : tableAccessibility.Tests LacksTableParts := by
  apply tests_of_exists
  intro e
  simp only [detectTableAccessibility_eq_some_iff, exists_and_left, exists_first_iff, exists_eq,
    and_true]
  rfl

theorem tests_keyboardAccessibility : keyboardAccessibility.Tests LacksKeyboard := by
  apply tests_of_exists
  intro e
  simp only [detectKeyboardAccessibility_eq_some_iff, exists_and_left, exists_first_iff, exists_eq,
    and_true]
  rfl

theorem rules_test_conditions : List.Forall₂ Rule.Tests rules conditions :=
  .cons (tests_of_finding detectMissingLabel_eq_some_iff) <|
  .cons (tests_of_finding missing_eq_some_iff) <|
  .cons (tests_of_finding detectButtonLabel_eq_some_iff) <|
  .cons (tests_of_finding missing_eq_some_iff) <|
  .cons (tests_of_finding missing_eq_some_iff) <|
  .cons (tests_of_finding detectHeadingStructure_eq_some_iff) <|
  .cons (tests_of_finding detectLandmarkElements_eq_some_iff) <|
  .cons tests_formValidation <|
  .cons tests_ariaValidation <|
  .cons tests_tableAccessibility <|
  .cons tests_keyboardAccessibility .nil

/-- On any element, in any source, every rule of the catalog comes to a result, and reports something
exactly when the element meets the condition of the rule. -/
theorem check_iff_condition (e : Element) (source : String) :
    List.Forall₂ (fun (r : Rule) (condition : Element → Prop) =>
      ∃ found, r.check ⟨e, source⟩ = .ok found ∧ (found.isSome ↔ condition e))
      rules conditions :=
  rules_test_conditions.imp fun _ _ h => h ⟨e, source⟩

end Catalog

end MarkupAudit
