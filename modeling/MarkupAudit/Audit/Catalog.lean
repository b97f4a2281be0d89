import MarkupAudit.Audit.Registry

/-! The built-in rules. Every detector looks at one element, passes over the tags it does not
handle, and reports the first of its conditions that holds. -/
namespace MarkupAudit.Catalog

def formFieldTags : List String := ["input", "select", "textarea"]
def landmarkTags : List String :=
  ["nav", "main", "aside", "header", "footer", "section", "article"]
def sectioningTags : List String := ["section", "article"]
def interactiveTags : List String :=
  ["button", "a", "input", "select", "textarea", "div", "span"]
def headingTags : List String := ["h1", "h2", "h3", "h4", "h5", "h6"]

def clickHandlers : List String := ["onClick", "onKeyDown", "onKeyUp"]
def keyboardHandlers : List String := ["onKeyDown", "onKeyUp", "onKeyPress"]
def toggleHandlers : List String := ["onClick", "onToggle"]
def namingAttributes : List String := ["aria-label", "aria-labelledby"]

def capitalised (s : String) : String :=
  match s.toList with
  | [] => ""
  | c :: cs => String.ofList (c.toUpper :: cs)

def finding (message : String) (severity : Option Severity := none) : Option Finding :=
  some ⟨message, severity.map Severity.name⟩

def detectMissingLabel (e : Element) : Option Finding :=
  if !formFieldTags.contains e.tag || e.hasAttribute ["id"] then none
  else
    finding (capitalised e.tag ++
      " element may be missing an associated <label> (no id or label found)")

def detectMissingAlt (e : Element) : Option Finding :=
  if e.tag != "img" || e.hasAttribute ["alt"] then none
  else finding "<img> tag is missing an alt attribute"

def detectButtonLabel (e : Element) : Option Finding :=
  if e.tag != "button" then none
  else if e.text != "" || e.hasAttribute ["aria-label"] then none
  else finding "<button> has no text content or aria-label"

def detectAnchorWithoutHref (e : Element) : Option Finding :=
  if e.tag != "a" || e.hasAttribute ["href"] then none
  else finding "<a> tag is missing an href attribute"

def detectIframeWithoutTitle (e : Element) : Option Finding :=
  if e.tag != "iframe" || e.hasAttribute ["title"] then none
  else finding "iframe element is missing a title"

/-- One element alone shows no heading order, so only a main heading gets a reminder. -/
def detectHeadingStructure (e : Element) : Option Finding :=
  if e.tag == "h1" then
    finding "Ensure this h1 is the main heading and there is only one h1 per page"
      (some .info)
  else none

def detectLandmarkElements (e : Element) : Option Finding :=
  if !landmarkTags.contains e.tag then none
  else if !sectioningTags.contains e.tag || e.hasAttribute ["role"] then none
  else if e.hasChildTag headingTags then none
  else finding (e.tag ++ " element should have a heading or aria-label for accessibility")

def detectFormValidation (e : Element) : Option Finding :=
  if !formFieldTags.contains e.tag then none
  else
    let required := e.hasAttribute ["required", "aria-required"]
    let inputType := if e.tag == "input" then e.literal? "type" else none
    if inputType == some "email" && !required then
      finding "Email input should have required attribute for better validation" (some .warn)
    else if inputType == some "password" && !e.hasAttribute ["aria-describedby"] then
      finding "Password input should have aria-describedby for password requirements"
        (some .info)
    else if required && !e.hasAttribute namingAttributes then
      finding "Required form field should have aria-label or aria-labelledby" (some .warn)
    else none

/-- What is wrong with one ARIA attribute among all those of its element. -/
def ariaFinding (aria : List Attribute) (a : Attribute) : Option Finding :=
  match a.literal? with
  | none => none
  | some value =>
    if a.name == "aria-label" && Text.isAllBlank value then
      finding "aria-label should not be empty" (some .error)
    else if a.name == "aria-hidden" && value == "true" &&
        aria.any (fun other => other.name != "aria-hidden") then
      finding "aria-hidden=\"true\" should not be used with other ARIA attributes" (some .warn)
    else if ["aria-labelledby", "aria-describedby"].contains a.name && Text.isAllBlank value then
      finding (a.name ++ " should reference a valid element ID") (some .error)
    else none

/-- Member and namespaced tags are passed over; components are not. -/
def detectAriaValidation (e : Element) : Option Finding :=
  if e.tag.toList.contains '.' || e.tag.toList.contains ':' then none
  else
    match e.ariaAttributes.findSome? (ariaFinding e.ariaAttributes) with
    | some f => some f
    | none =>
      if e.tag == "button" && e.hasAttribute toggleHandlers && !e.hasAttribute ["aria-expanded"]
      then finding "Button with toggle behavior should have aria-expanded attribute" (some .warn)
      else none

def detectTableAccessibility (e : Element) : Option Finding :=
  if e.tag != "table" then none
  else if !e.hasChildTag ["caption"] && !e.hasAttribute namingAttributes &&
      !e.hasAttribute ["summary"] then
    finding "Table should have a caption, aria-label, or summary for accessibility"
  else if !e.hasChildTag ["thead"] then
    finding "Table should have proper header structure (thead) for accessibility"
  else none

def detectKeyboardAccessibility (e : Element) : Option Finding :=
  if !interactiveTags.contains e.tag then none
  else
    let handled := e.hasAttribute clickHandlers
    let role := e.hasAttribute ["role"]
    if !handled && !role then none
    else if ["div", "span"].contains e.tag && handled && !e.hasAttribute ["tabIndex"] && !role then
      finding "Interactive div/span should have tabIndex or role for keyboard accessibility"
        (some .error)
    else if handled && !e.hasAttribute keyboardHandlers then
      finding "Interactive element should support keyboard events (Enter/Space)" (some .warn)
    else if !e.hasAttribute ["aria-label", "aria-labelledby", "role"] then
      finding "Interactive element should have proper ARIA attributes for screen readers"
        (some .warn)
    else none

def rule (name description : String) (category : Category) (severity : Severity)
    (detect : Element → Option Finding) : Rule :=
  ⟨name, description, category, severity, fun ctx => .ok (detect ctx.element)⟩

def missingLabel : Rule :=
  rule "missing-label" "Detect input elements without labels or identifiers"
    .formSemantics .warn detectMissingLabel

def missingAlt : Rule :=
  rule "missing-alt" "Detect <img> tags missing alt attribute"
    .accessibility .error detectMissingAlt

def buttonLabel : Rule :=
  rule "button-label" "Detect <button> elements with no accessible label"
    .accessibility .error detectButtonLabel

def anchorWithoutHref : Rule :=
  rule "anchor-without-href" "Detect <a> tags without href attribute"
    .structuralSemantics .warn detectAnchorWithoutHref

def iframeWithoutTitle : Rule :=
  rule "iframe-without-title" "Detect iframe elements without a title"
    .accessibility .warn detectIframeWithoutTitle

def headingStructure : Rule :=
  rule "heading-structure" "Detect improper heading hierarchy and missing heading levels"
    .accessibility .info detectHeadingStructure

def landmarkElements : Rule :=
  rule "landmark-elements"
    "Detect missing or improper landmark elements for page structure"
    .accessibility .warn detectLandmarkElements

def formValidation : Rule :=
  rule "form-validation" "Detect form elements missing proper validation attributes"
    .formSemantics .warn detectFormValidation

def ariaValidation : Rule :=
  rule "aria-validation" "Validate proper ARIA attribute usage and relationships"
    .accessibility .error detectAriaValidation

def tableAccessibility : Rule :=
  rule "table-accessibility" "Detect tables missing proper accessibility features"
    .accessibility .warn detectTableAccessibility

def keyboardAccessibility : Rule :=
  rule "keyboard-accessibility"
    "Detect interactive elements missing keyboard accessibility"
    .accessibility .error detectKeyboardAccessibility

/-- The built-in rules, in the order in which they run. -/
def rules : List Rule :=
  [missingLabel, missingAlt, buttonLabel, anchorWithoutHref, iframeWithoutTitle,
    headingStructure, landmarkElements, formValidation, ariaValidation, tableAccessibility,
    keyboardAccessibility]

def registry : Registry := ⟨rules⟩

theorem firstRepeated_names : firstRepeated [] (rules.map Rule.name) = none := by decide

theorem ofRules_rules : Registry.ofRules rules = .ok registry := by
  simp [Registry.ofRules, firstRepeated_names, registry]

end MarkupAudit.Catalog
