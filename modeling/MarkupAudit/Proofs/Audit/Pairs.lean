import Mathlib.Data.List.ProdSigma
import Mathlib.Data.List.ReduceOption
import MarkupAudit.Proofs.Audit.Places
import MarkupAudit.Proofs.Source.Reach

/-! An audit as a sum over pairs: every element of the walk with every rule of the registry, element
by element. The first rule of these pairs that gives up ends the audit; otherwise the result holds
what each of them reports, in the same order. Inputs are refused before any rule is asked. -/
namespace MarkupAudit

theorem runRules_eq (rules : List Rule) (ctx : RuleContext) :
    runRules rules ctx = (rules.mapM fun r : Rule => r.check ctx).map List.reduceOption := by
  induction rules with
  | nil => rfl
  | cons r rest ih =>
    rw [runRules, List.mapM_cons, ih]
    cases r.check ctx with
    | error failure => rfl
    | ok found =>
      cases rest.mapM fun r => r.check ctx with
      | error failure => rfl
      | ok others => cases found <;> rfl

def checkPair (source : String) (p : Element × Rule) : Except DetectorFailure (Option Violation) :=
  p.2.check ⟨p.1, source⟩

theorem violations_tallyElements (registry : Registry) (source : String) (tally : Tally)
    (elements : List Element) :
    (tallyElements registry source tally elements).map Tally.violations =
      ((elements ×ˢ registry.rules).mapM (checkPair source)).map fun found =>
        tally.violations ++ found.reduceOption := by
  induction elements generalizing tally with
  | nil => exact congrArg Except.ok (List.append_nil _).symm
  | cons e rest ih =>
    have hpairs : checkPair source ∘ (fun r => (e, r)) = fun r => r.check ⟨e, source⟩ := rfl
    rw [tallyElements, runRules_eq, List.product_cons, List.mapM_append, List.mapM_map, hpairs]
    cases registry.rules.mapM fun r : Rule => r.check ⟨e, source⟩ with
    | error failure => rfl
    | ok found =>
      change (tallyElements registry source (tally.extend found.reduceOption) rest).map
        Tally.violations = _
      rw [ih]
      cases (rest ×ˢ registry.rules).mapM (checkPair source) with
      | error failure => rfl
      | ok others =>
        dsimp only [Except.map, bind, Except.bind, pure, Except.pure]
        rw [Tally.violations_extend, List.append_assoc, List.reduceOption_append]

def reported (source : String) (p : Element × Rule) : Option Violation :=
  match p.2.detect ⟨p.1, source⟩ with
  | .ok (some f) =>
    some
      { name := p.2.name
        category := p.2.category.name
        severity := (f.severity.filter (· ≠ "")).getD p.2.severity.name
        message := f.message
        location := p.1.location }
  | _ => none

theorem severityOf_eq (r : Rule) (f : Finding) :
    r.severityOf f = (f.severity.filter (· ≠ "")).getD r.severity.name := by
  unfold Rule.severityOf
  cases f.severity with
  | none => rfl
  | some s => by_cases h : s = "" <;> simp [Option.filter, h]

theorem eq_reported_of_checkPair {source : String} {p : Element × Rule} {found : Option Violation}
    (h : checkPair source p = .ok found) : found = reported source p := by
  obtain ⟨finding?, hdetect, rfl⟩ := Outcome.map_eq_ok_iff.1 h
  rw [reported, hdetect]
  cases finding? with
  | none => rfl
  | some f => simp [Rule.violation, severityOf_eq]

/-- Whether a rule has an answer about the element it is paired with, be it that it finds nothing. -/
def Answers (source : String) (p : Element × Rule) : Prop :=
  ∃ finding?, p.2.detect ⟨p.1, source⟩ = .ok finding?

theorem answers_iff {source : String} {p : Element × Rule} :
    Answers source p ↔ ∃ found, checkPair source p = .ok found := by
  constructor
  · rintro ⟨finding?, h⟩
    exact ⟨_, Outcome.map_eq_ok_iff.2 ⟨finding?, h, rfl⟩⟩
  · rintro ⟨found, h⟩
    obtain ⟨finding?, h, -⟩ := Outcome.map_eq_ok_iff.1 h
    exact ⟨finding?, h⟩

/-- Whether the first rule without an answer, in the order of some pairs, gives up with a failure. -/
def GivesUpFirst (source : String) (pairs : List (Element × Rule)) (failure : DetectorFailure) :
    Prop :=
  ∃ before e r after, pairs = before ++ (e, r) :: after ∧ (∀ p ∈ before, Answers source p) ∧
    r.detect ⟨e, source⟩ = .error failure

theorem checkPair_eq_error_iff {source : String} {p : Element × Rule} {failure : DetectorFailure} :
    checkPair source p = .error failure ↔ p.2.detect ⟨p.1, source⟩ = .error failure :=
  Outcome.map_eq_error_iff

theorem mapM_checkPair_eq_error_iff {source : String} {pairs : List (Element × Rule)}
    {failure : DetectorFailure} :
    pairs.mapM (checkPair source) = .error failure ↔ GivesUpFirst source pairs failure := by
  rw [Outcome.mapM_eq_error_iff]
  simp only [← answers_iff, checkPair_eq_error_iff, Prod.exists]
  rfl

theorem exists_givesUpFirst {source : String} {pairs : List (Element × Rule)}
    (h : ∃ p ∈ pairs, ¬Answers source p) : ∃ failure, GivesUpFirst source pairs failure := by
  simp only [← mapM_checkPair_eq_error_iff]
  cases hpairs : pairs.mapM (checkPair source) with
  | error failure => exact ⟨failure, rfl⟩
  | ok found =>
    obtain ⟨p, hp, hnone⟩ := h
    exact absurd (answers_iff.2 (Outcome.exists_mapM_eq_ok_iff.1 ⟨found, hpairs⟩ p hp)) hnone

theorem reduceOption_of_mapM_checkPair {source : String} {pairs : List (Element × Rule)}
    {found : List (Option Violation)} (h : pairs.mapM (checkPair source) = .ok found) :
    found.reduceOption = pairs.filterMap (reported source) := by
  have hfound : List.Forall₂ Eq (pairs.map (reported source)) found :=
    List.forall₂_map_left_iff.2 ((Outcome.mapM_eq_ok_iff.1 h).imp fun _ _ hp =>
      (eq_reported_of_checkPair hp).symm)
  rw [List.forall₂_eq_eq_eq] at hfound
  rw [← hfound, List.reduceOption, List.filterMap_map]
  rfl

section
variable {registry : Registry} {root : Root} {source : String}

theorem audit_eq_detector_iff {failure : DetectorFailure} :
    (audit registry root source).value = .error (.detector failure) ↔
      GivesUpFirst source (root.elements ×ˢ registry.rules) failure := by
  rw [← mapM_checkPair_eq_error_iff]
  have hpairs := violations_tallyElements registry source .empty root.elements
  cases htally : tallyElements registry source .empty root.elements with
  | error failure' =>
    rw [htally] at hpairs
    rw [Outcome.map_eq_error_iff.1 hpairs.symm, audit, htally]
    simp
  | ok tally =>
    rw [htally] at hpairs
    obtain ⟨found, hfound, -⟩ := Outcome.map_eq_ok_iff.1 hpairs.symm
    rw [hfound, value_audit htally]
    cases AuditResult.ofViolations registry.size tally.violations <;> simp [Except.mapError]

theorem value_audit_of_answers (h : ∀ p ∈ root.elements ×ˢ registry.rules, Answers source p) :
    (audit registry root source).value =
      (AuditResult.ofViolations registry.size
        ((root.elements ×ˢ registry.rules).filterMap (reported source))).mapError .score := by
  obtain ⟨found, hfound⟩ := Outcome.exists_mapM_eq_ok_iff.2 fun p hp => answers_iff.1 (h p hp)
  have hpairs := violations_tallyElements registry source .empty root.elements
  rw [hfound] at hpairs
  obtain ⟨tally, htally, hviolations⟩ := Outcome.map_eq_ok_iff.1 hpairs
  rw [value_audit htally, hviolations, ← reduceOption_of_mapM_checkPair hfound]
  rfl

end

/-- An audit of no more than 2^1000 elements can be scored, since no pair has two violations. -/
theorem exists_ofViolations (registry : Registry) (source : String) {root : Root}
    (h : root.elements.length ≤ 2 ^ 1000) :
    ∃ result, AuditResult.ofViolations registry.size
      ((root.elements ×ˢ registry.rules).filterMap (reported source)) = .ok result := by
  have hlength : ((root.elements ×ˢ registry.rules).filterMap (reported source)).length ≤
      root.elements.length * registry.size := by
    rw [Registry.size, ← List.length_product]
    exact List.length_filterMap_le _ _
  obtain ⟨s, hs⟩ := exists_score_of_scorable
    (hlength.trans (Nat.mul_le_mul_right registry.size h))
  exact ⟨_, ofViolations_eq_ok_iff.2 ⟨s, hs, rfl⟩⟩

/-- Whether a tree of a source can be converted: its nodes are told apart, its attributes have names,
and every node spans a text. -/
structure SourceNode.Readable (tree : SourceNode) (source : String) : Prop where
  distinct : tree.DistinctIds
  named : tree.AttributesNamed
  texts : ∀ n ∈ tree.nodes, ∃ s, n.textIn (Text.Utf8.bytesOf source) = .ok s

theorem SourceNode.Readable.exists_ofTree {tree : SourceNode} {source : String}
    (h : tree.Readable source) (sound : tree.hasError = false) :
    ∃ d, Document.ofTree (Text.Utf8.bytesOf source) tree = .ok d := by
  have hroots : ∀ r ∈ tree.outermostMarkup, r ∈ tree.nodes ∧ r.isContainer := fun r hr =>
    isContainer_of_mem_outermostMarkup hr
  obtain ⟨ns, hns⟩ := Outcome.exists_mapM_eq_ok_iff.2 fun r hr =>
    exists_nodeIn h.named h.texts (hroots r hr).1
  exact ⟨⟨ns⟩, Document.ofTree_eq_ok_iff.2
    ⟨sound, Conversion.convert_eq_of_recursion h.distinct h.named hroots hns⟩⟩

section
variable {grammar : Grammar} {source : String}

theorem parseSource_cases (readable : ∀ tree, grammar source = some tree →
      tree.hasError = false → tree.Readable source) :
    (∃ e, (parseSource grammar source).value = .error (.input e)) ∨
      ∃ d, (parseSource grammar source).value = .ok d := by
  unfold parseSource
  cases hparsed : grammar source with
  | none => exact .inl ⟨_, rfl⟩
  | some tree =>
    dsimp only
    cases herror : tree.hasError with
    | true =>
      rw [Document.ofTree, if_pos herror]
      exact .inl ⟨_, rfl⟩
    | false =>
      obtain ⟨d, hd⟩ := (readable tree hparsed herror).exists_ofTree herror
      rw [hd]
      exact .inr ⟨d, rfl⟩

theorem auditSource_of_parseSource_error {registry : Registry} {e : ParseFailure}
    (h : (parseSource grammar source).value = .error e) :
    (auditSource grammar registry source).value = .error (.ofParse e) := by
  rw [auditSource, Logged.bindOk, Logged.mapError, h]
  rfl

theorem auditSource_of_parseSource_ok {registry : Registry} {d : Document}
    (h : (parseSource grammar source).value = .ok d) :
    (auditSource grammar registry source).value = (audit registry (.document d) source).value := by
  rw [auditSource, Logged.bindOk, Logged.mapError, h]
  rfl

theorem audit_ne_input {registry : Registry} {root : Root} {e : MarkupError} :
    (audit registry root source).value ≠ .error (.input e) := by
  unfold audit
  dsimp only
  split
  · simp
  · dsimp only
    split <;> simp

theorem auditSource_eq_input_iff {registry : Registry} {e : MarkupError} :
    (auditSource grammar registry source).value = .error (.input e) ↔
      (parseSource grammar source).value = .error (.input e) := by
  cases h : (parseSource grammar source).value with
  | ok d =>
    rw [auditSource_of_parseSource_ok h]
    simp [audit_ne_input]
  | error failure =>
    rw [auditSource_of_parseSource_error h]
    cases failure <;> simp [AuditFailure.ofParse]

/-- A source is refused as input when it is refused as markup, whatever the rules. Of any other source
the elements are paired with the rules, in the order of the walk and then of the registry. If a rule
gives up on its element, the audit fails as the first of those rules does. If none does, the result
holds the violations of all pairs in this order; only for more than 2^1000 elements the score may be
out of reach. -/
theorem auditSource_pairs (readable : ∀ tree, grammar source = some tree →
      tree.hasError = false → tree.Readable source) (registry : Registry) :
    (∀ e, (auditSource grammar registry source).value = .error (.input e) ↔
      (parseSource grammar source).value = .error (.input e)) ∧
    ((∃ e, (parseSource grammar source).value = .error (.input e)) ∨
      ∃ d, (parseSource grammar source).value = .ok d ∧
        (∀ failure, (auditSource grammar registry source).value = .error (.detector failure) ↔
          GivesUpFirst source ((Root.document d).elements ×ˢ registry.rules) failure) ∧
        ((∃ p ∈ (Root.document d).elements ×ˢ registry.rules, ¬Answers source p) →
          ∃ failure,
            GivesUpFirst source ((Root.document d).elements ×ˢ registry.rules) failure) ∧
        ((∀ p ∈ (Root.document d).elements ×ˢ registry.rules, Answers source p) →
          (∃ result, (auditSource grammar registry source).value = .ok result ∧
            result.violations =
              ((Root.document d).elements ×ˢ registry.rules).filterMap (reported source) ∧
            result.totalChecks = registry.size ∧
            result.passedChecks + result.violations.length = result.totalChecks ∧
            score registry.size result.violations.length = .ok result.score) ∨
          2 ^ 1000 < (Root.document d).elements.length ∧
            ∃ failure, (auditSource grammar registry source).value = .error (.score failure))) := by
  refine ⟨fun e => auditSource_eq_input_iff, ?_⟩
  rcases parseSource_cases readable with herror | ⟨d, hd⟩
  · exact .inl herror
  refine .inr ⟨d, hd, ?_⟩
  rw [auditSource_of_parseSource_ok hd]
  refine ⟨fun failure => audit_eq_detector_iff, exists_givesUpFirst, ?_⟩
  intro hanswers
  rw [value_audit_of_answers hanswers]
  cases hresult : AuditResult.ofViolations _ _ with
  | ok result =>
    obtain ⟨s, hs, rfl⟩ := ofViolations_eq_ok_iff.1 hresult
    exact .inl ⟨_, rfl, rfl, rfl, by dsimp only; omega, hs⟩
  | error failure =>
    refine .inr ⟨?_, failure, rfl⟩
    by_contra hfew
    obtain ⟨result, h⟩ := exists_ofViolations registry source (Nat.le_of_not_lt hfew)
    rw [hresult] at h
    cases h

end

def alarmRule (name : String) (tags : List String) : Rule where
  name := name
  description := ""
  category := .accessibility
  severity := .error
  detect := fun ctx =>
    if ctx.element.tag ∈ tags then .error ⟨name ++ " on " ++ ctx.element.tag⟩ else .ok none

def alarmRegistry : Registry :=
  ⟨[tagRule "both" ["p", "q"], alarmRule "inner" ["q"], alarmRule "outer" ["p"]]⟩

theorem sequenceMarkup_readable : sequenceMarkup.Readable sequenceText where
  distinct := sequenceMarkup_distinctIds
  named := by
    unfold SourceNode.AttributesNamed
    decide
  texts := by
    have hread : ∀ n ∈ sequenceMarkup.nodes,
        (n.textIn (Text.Utf8.bytesOf sequenceText)).toOption.isSome := by
      decide +kernel
    exact fun n hn => Outcome.exists_eq_ok_of_isSome (hread n hn)

/-- The rule that gives up first is the last one, because the first element is its own. -/
theorem auditSource_pairs_sequenceText :
    sequenceMarkup.hasError = false ∧ sequenceMarkup.Readable sequenceText ∧
    (auditSource (fun _ => some sequenceMarkup) alarmRegistry sequenceText).value =
      .error (.detector ⟨"outer on p"⟩) := by
  refine ⟨rfl, sequenceMarkup_readable, ?_⟩
  obtain ⟨-, hparsed⟩ := @auditSource_pairs (fun _ => some sequenceMarkup) sequenceText
    (fun tree h _ => Option.some.inj h ▸ sequenceMarkup_readable) alarmRegistry
  have hd : (parseSource (fun _ => some sequenceMarkup) sequenceText).value =
      .ok sequenceDocument := by
    simp only [parseSource, ofTree_sequenceMarkup]
  rw [hd] at hparsed
  rcases hparsed with ⟨e, h⟩ | ⟨d, h, hfailure, -⟩
  · cases h
  · cases h
    rw [hfailure, elements_sequenceDocument]
    refine ⟨[_, _], _, _, _, rfl, ?_, rfl⟩
    exact List.forall_mem_cons.2 ⟨⟨_, rfl⟩, List.forall_mem_singleton.2 ⟨_, rfl⟩⟩

end MarkupAudit
