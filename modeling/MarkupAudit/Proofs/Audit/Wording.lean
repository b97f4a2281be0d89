import MarkupAudit.Proofs.Audit.Conditions
import MarkupAudit.Proofs.Audit.Pairs

/-! What the built-in rules say. Whatever the element, a message of theirs is on one line, and where
a finding has a severity of its own it is one of the three that there are. So the violations of an
audit by these rules have one of the three severities, one of the three categories and a message on
one line. -/
namespace MarkupAudit

namespace Text

def OneLine (s : String) : Prop :=
  '\n' ∉ s.toList

theorem OneLine.ofList {cs : List Char} (h : '\n' ∉ cs) : OneLine (String.ofList cs) := by
  rwa [OneLine, String.toList_ofList]

theorem OneLine.append {s t : String} (hs : OneLine s) (ht : OneLine t) : OneLine (s ++ t) := by
  rw [OneLine, String.toList_append, List.mem_append, not_or]
  exact ⟨hs, ht⟩

end Text

/-- Whether a finding has a message on one line and, if any, a severity that there is. -/
structure Finding.Proper (f : Finding) : Prop where
  message : Text.OneLine f.message
  severity : ∀ name ∈ f.severity, name ∈ ["error", "warn", "info"]

/-- Whether a violation has a message on one line, and a severity and a category that there are. -/
structure Violation.Proper (v : Violation) : Prop where
  message : Text.OneLine v.message
  severity : v.severity ∈ ["error", "warn", "info"]
  category : v.category ∈ ["accessibility", "form-semantics", "structural-semantics"]

theorem Severity.name_mem (s : Severity) : s.name ∈ ["error", "warn", "info"] := by
  cases s <;> decide

theorem Category.name_mem (c : Category) :
    c.name ∈ ["accessibility", "form-semantics", "structural-semantics"] := by
  cases c <;> decide

theorem Finding.Proper.violation {f : Finding} (h : f.Proper) (r : Rule) (e : Element) :
    (r.violation e f).Proper where
  message := h.message
  category := r.category.name_mem
  severity := by
    change r.severityOf f ∈ _
    unfold Rule.severityOf
    split
    · exact r.severity.name_mem
    · rename_i name hname
      split
      · exact r.severity.name_mem
      · exact h.severity name hname

namespace Catalog
variable {e : Element} {f : Finding}

def FindsProper (detect : Element → Option Finding) : Prop :=
  ∀ ⦃e f⦄, detect e = some f → f.Proper

theorem proper_of_message {message : String} (h : Text.OneLine message) :
    Finding.Proper ⟨message, none⟩ :=
  ⟨h, fun _ hname => nomatch hname⟩

theorem proper_of_severity {message name : String} (h : Text.OneLine message)
    (hname : name ∈ ["error", "warn", "info"]) : Finding.Proper ⟨message, some name⟩ :=
  ⟨h, fun _ hsome => Option.some.inj hsome ▸ hname⟩

theorem proper_detectMissingLabel : FindsProper detectMissingLabel := by
  have hline : ∀ tag ∈ ["input", "select", "textarea"], '\n' ∉ (capitalised tag).toList := by
    decide +kernel
  intro e f h
  obtain ⟨⟨htag, -⟩, rfl⟩ := detectMissingLabel_eq_some_iff.1 h
  exact proper_of_message
    (.append (hline e.tag htag) (.ofList (by decide)))

theorem proper_missing {tag name message : String} (hline : Text.OneLine message) :
    FindsProper fun e =>
      if e.tag != tag || e.hasAttribute [name] then none else finding message := by
  intro e f h
  obtain ⟨-, rfl⟩ := missing_eq_some_iff.1 h
  exact proper_of_message hline

theorem proper_detectButtonLabel : FindsProper detectButtonLabel := by
  intro e f h
  obtain ⟨-, rfl⟩ := detectButtonLabel_eq_some_iff.1 h
  exact proper_of_message (.ofList (by decide))

theorem proper_detectHeadingStructure : FindsProper detectHeadingStructure := by
  intro e f h
  obtain ⟨-, rfl⟩ := detectHeadingStructure_eq_some_iff.1 h
  exact proper_of_severity (.ofList (by decide)) (by decide)

theorem proper_detectLandmarkElements : FindsProper detectLandmarkElements := by
  have hline : ∀ tag ∈ ["section", "article"], '\n' ∉ tag.toList := by
    decide +kernel
  intro e f h
  obtain ⟨⟨htag, -⟩, rfl⟩ := detectLandmarkElements_eq_some_iff.1 h
  exact proper_of_message
    (.append (hline e.tag htag) (.ofList (by decide)))

theorem proper_detectFormValidation : FindsProper detectFormValidation := by
  intro e f h
  rcases (detectFormValidation_eq_some_iff.1 h).2 with ⟨-, rfl⟩ | ⟨-, ⟨-, rfl⟩ | ⟨-, -, rfl⟩⟩
  all_goals exact proper_of_severity (.ofList (by decide)) (by decide)

theorem proper_ariaFinding {a : Attribute} (h : ariaFinding e.ariaAttributes a = some f) :
    f.Proper := by
  have hline : ∀ name ∈ ["aria-labelledby", "aria-describedby"], '\n' ∉ name.toList := by
    decide +kernel
  rcases ariaFinding_eq_some_iff.1 h with ⟨-, rfl⟩ | ⟨-, rfl⟩ | ⟨⟨hname, -⟩, rfl⟩
  · exact proper_of_severity (.ofList (by decide)) (by decide)
  · exact proper_of_severity (.ofList (by decide)) (by decide)
  · exact proper_of_severity
      (.append (hline a.name hname) (.ofList (by decide))) (by decide)

theorem proper_detectAriaValidation : FindsProper detectAriaValidation := by
  intro e f h
  rcases (detectAriaValidation_eq_some_iff.1 h).2.2 with hfound | ⟨-, -, rfl⟩
  · obtain ⟨a, -, ha⟩ := List.exists_of_findSome?_eq_some hfound
    exact proper_ariaFinding ha
  · exact proper_of_severity (.ofList (by decide)) (by decide)

theorem proper_detectTableAccessibility : FindsProper detectTableAccessibility := by
  intro e f h
  rcases (detectTableAccessibility_eq_some_iff.1 h).2 with ⟨-, rfl⟩ | ⟨-, -, rfl⟩
  all_goals exact proper_of_message (.ofList (by decide))

theorem proper_detectKeyboardAccessibility : FindsProper detectKeyboardAccessibility := by
  intro e f h
  rcases (detectKeyboardAccessibility_eq_some_iff.1 h).2.2 with
    ⟨-, rfl⟩ | ⟨-, ⟨-, rfl⟩ | ⟨-, -, rfl⟩⟩
  all_goals exact proper_of_severity (.ofList (by decide)) (by decide)

theorem exists_proper_of_mem_rules : ∀ r ∈ rules, ∃ detect, FindsProper detect ∧
    r.detect = fun ctx => .ok (detect ctx.element) := by
  simp only [rules, List.forall_mem_cons, List.not_mem_nil, false_imp_iff, implies_true, and_true]
  exact ⟨⟨_, proper_detectMissingLabel, rfl⟩, ⟨_, proper_missing (.ofList (by decide)), rfl⟩,
    ⟨_, proper_detectButtonLabel, rfl⟩, ⟨_, proper_missing (.ofList (by decide)), rfl⟩,
    ⟨_, proper_missing (.ofList (by decide)), rfl⟩, ⟨_, proper_detectHeadingStructure, rfl⟩,
    ⟨_, proper_detectLandmarkElements, rfl⟩, ⟨_, proper_detectFormValidation, rfl⟩,
    ⟨_, proper_detectAriaValidation, rfl⟩, ⟨_, proper_detectTableAccessibility, rfl⟩,
    ⟨_, proper_detectKeyboardAccessibility, rfl⟩⟩

theorem exists_proper_checkPair (source : String) {p : Element × Rule} (h : p.2 ∈ rules) :
    ∃ found, checkPair source p = .ok found ∧ ∀ v ∈ found, v.Proper := by
  obtain ⟨detect, hproper, hdetect⟩ := exists_proper_of_mem_rules p.2 h
  refine ⟨_, Rule.check_of_detect hdetect _, ?_⟩
  intro v hv
  obtain ⟨f, hf, rfl⟩ := Option.map_eq_some_iff.1 hv
  exact (hproper hf).violation p.2 p.1

end Catalog

/-- An audit by rules of the catalog comes to a result, whose violations are proper; only for more
than 2^1000 elements the score may be out of reach. -/
theorem audit_of_catalog {registry : Registry}
    (hrules : ∀ rule ∈ registry.rules, rule ∈ Catalog.rules) (root : Root) (source : String) :
    (∃ r, (audit registry root source).value = .ok r ∧ ∀ v ∈ r.violations, v.Proper) ∨
      2 ^ 1000 < root.elements.length ∧
        ∃ failure, (audit registry root source).value = .error (.score failure) := by
  have hpairs : ∀ p ∈ root.elements ×ˢ registry.rules,
      ∃ found, checkPair source p = .ok found ∧ ∀ v ∈ found, v.Proper := fun p hp =>
    Catalog.exists_proper_checkPair source (hrules p.2 (List.mem_product.1 hp).2)
  have hanswers : ∀ p ∈ root.elements ×ˢ registry.rules, Answers source p := fun p hp =>
    answers_iff.2 ((hpairs p hp).imp fun _ h => h.1)
  rw [value_audit_of_answers hanswers]
  cases hresult : AuditResult.ofViolations registry.size
      ((root.elements ×ˢ registry.rules).filterMap (reported source)) with
  | ok r =>
    refine .inl ⟨r, rfl, fun v hv => ?_⟩
    obtain ⟨s, -, rfl⟩ := ofViolations_eq_ok_iff.1 hresult
    obtain ⟨p, hp, hv⟩ := List.mem_filterMap.1 hv
    obtain ⟨found, hfound, hproper⟩ := hpairs p hp
    exact hproper v ((eq_reported_of_checkPair hfound).trans hv)
  | error failure =>
    refine .inr ⟨?_, failure, rfl⟩
    by_contra hfew
    obtain ⟨r, hr⟩ := exists_ofViolations registry source (Nat.le_of_not_lt hfew)
    rw [hresult] at hr
    cases hr

end MarkupAudit
