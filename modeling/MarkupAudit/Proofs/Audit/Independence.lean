import MarkupAudit.Audit.Run
import MarkupAudit.Proofs.Audit.Registry
import MarkupAudit.Proofs.Audit.Score
import MarkupAudit.Proofs.Markup.Walk

/-! Rules do not depend on one another: a run with some of the rules of a registry finds what the run
with all of them finds, less the violations of the rules left out. -/
namespace MarkupAudit

theorem name_of_check {r : Rule} {ctx : RuleContext} {found : Option Violation}
    (h : r.check ctx = .ok found) : ∀ v ∈ found, v.name = r.name := by
  obtain ⟨finding?, -, rfl⟩ := Outcome.map_eq_ok_iff.1 h
  intro v hv
  obtain ⟨finding, -, rfl⟩ := Option.map_eq_some_iff.1 hv
  rfl

theorem runRules_cons_eq_ok_iff {r : Rule} {rest : List Rule} {ctx : RuleContext}
    {found : List Violation} :
    runRules (r :: rest) ctx = .ok found ↔ ∃ first others,
      r.check ctx = .ok first ∧ runRules rest ctx = .ok others ∧
        found = Option.toList first ++ others := by
  rw [runRules]
  cases r.check ctx with
  | error e => simp
  | ok first => cases runRules rest ctx <;> simp [eq_comm]

/-- A rule that is left out takes its violations away, and nothing else changes. -/
theorem runRules_filter (p : String → Bool) {rules : List Rule} {ctx : RuleContext}
    {found : List Violation} (h : runRules rules ctx = .ok found) :
    runRules (rules.filter fun r => p r.name) ctx = .ok (found.filter fun v => p v.name) := by
  induction rules generalizing found with
  | nil =>
    cases h
    rfl
  | cons r rest ih =>
    obtain ⟨first, others, hfirst, hothers, rfl⟩ := runRules_cons_eq_ok_iff.1 h
    have hname : ∀ v ∈ Option.toList first, v.name = r.name := fun v hv =>
      name_of_check hfirst v (Option.mem_toList.1 hv)
    rw [List.filter_append]
    by_cases hp : p r.name
    · have hkept : (Option.toList first).filter (fun v => p v.name) = Option.toList first := by
        rw [List.filter_eq_self]
        intro v hv
        rw [hname v hv]
        exact hp
      rw [List.filter_cons, if_pos hp, hkept, runRules_cons_eq_ok_iff]
      exact ⟨first, _, hfirst, ih hothers, rfl⟩
    · have hgone : (Option.toList first).filter (fun v => p v.name) = [] := by
        rw [List.filter_eq_nil_iff]
        intro v hv
        rw [hname v hv]
        exact hp
      rw [List.filter_cons, if_neg hp, hgone, List.nil_append]
      exact ih hothers

theorem name_mem_of_runRules {rules : List Rule} {ctx : RuleContext} {found : List Violation}
    (h : runRules rules ctx = .ok found) : ∀ v ∈ found, v.name ∈ rules.map Rule.name := by
  induction rules generalizing found with
  | nil =>
    cases h
    exact List.forall_mem_nil _
  | cons r rest ih =>
    obtain ⟨first, others, hfirst, hothers, rfl⟩ := runRules_cons_eq_ok_iff.1 h
    intro v hv
    rw [List.map_cons, List.mem_cons]
    rcases List.mem_append.1 hv with hv | hv
    · exact .inl (name_of_check hfirst v (Option.mem_toList.1 hv))
    · exact .inr (ih hothers v hv)

theorem tallyElements_cons_eq_ok_iff {registry : Registry} {source : String} {tally total : Tally}
    {e : Element} {rest : List Element} :
    tallyElements registry source tally (e :: rest) = .ok total ↔ ∃ found,
      runRules registry.rules ⟨e, source⟩ = .ok found ∧
        tallyElements registry source (tally.extend found) rest = .ok total := by
  rw [tallyElements]
  cases runRules registry.rules ⟨e, source⟩ <;> simp

/-- Element by element, the tally of some of the rules stays the part of the full tally that bears
their names. -/
theorem tallyElements_keep (p : String → Bool) {registry : Registry} {source : String}
    {tally part total : Tally} {elements : List Element}
    (h : tallyElements registry source tally elements = .ok total)
    (hpart : part.violations = tally.violations.filter fun v => p v.name) :
    ∃ t, tallyElements (registry.keep p) source part elements = .ok t ∧
      t.violations = total.violations.filter fun v => p v.name := by
  induction elements generalizing tally part with
  | nil =>
    cases h
    exact ⟨part, rfl, hpart⟩
  | cons e rest ih =>
    obtain ⟨found, hfound, hrest⟩ := tallyElements_cons_eq_ok_iff.1 h
    have hextend : (part.extend (found.filter fun v => p v.name)).violations =
        (tally.extend found).violations.filter fun v => p v.name := by
      rw [Tally.violations_extend, Tally.violations_extend, hpart, List.filter_append]
    obtain ⟨t, ht, hviolations⟩ := ih hrest hextend
    refine ⟨t, ?_, hviolations⟩
    exact tallyElements_cons_eq_ok_iff.2 ⟨_, runRules_filter p hfound, ht⟩

theorem name_mem_of_tallyElements {registry : Registry} {source : String} {tally total : Tally}
    {elements : List Element} (h : tallyElements registry source tally elements = .ok total)
    (hnames : ∀ v ∈ tally.violations, v.name ∈ registry.names) :
    ∀ v ∈ total.violations, v.name ∈ registry.names := by
  induction elements generalizing tally with
  | nil =>
    cases h
    exact hnames
  | cons e rest ih =>
    obtain ⟨found, hfound, hrest⟩ := tallyElements_cons_eq_ok_iff.1 h
    apply ih hrest
    intro v hv
    rw [Tally.violations_extend] at hv
    rcases List.mem_append.1 hv with hv | hv
    · exact hnames v hv
    · exact name_mem_of_runRules hfound v hv

theorem ofViolations_eq_ok_iff {rules : Nat} {violations : List Violation}
    {result : AuditResult} :
    AuditResult.ofViolations rules violations = .ok result ↔ ∃ s,
      score rules violations.length = .ok s ∧
        result = ⟨rules, rules - violations.length, violations, s⟩ := by
  cases hscore : score rules violations.length with
  | error e => simp [AuditResult.ofViolations, hscore]
  | ok s => simp [AuditResult.ofViolations, hscore, eq_comm]

theorem value_audit {registry : Registry} {root : Root} {source : String} {tally : Tally}
    (h : tallyElements registry source .empty root.elements = .ok tally) :
    (audit registry root source).value =
      (AuditResult.ofViolations registry.size tally.violations).mapError .score := by
  unfold audit
  dsimp only
  rw [h]
  dsimp only
  cases AuditResult.ofViolations registry.size tally.violations <;> rfl

theorem audit_eq_ok_iff {registry : Registry} {root : Root} {source : String}
    {result : AuditResult} :
    (audit registry root source).value = .ok result ↔ ∃ tally s,
      tallyElements registry source .empty root.elements = .ok tally ∧
      score registry.size tally.violations.length = .ok s ∧
      result = ⟨registry.size, registry.size - tally.violations.length, tally.violations, s⟩ := by
  cases htally : tallyElements registry source .empty root.elements with
  | error e => simp [audit, htally]
  | ok tally =>
    rw [value_audit htally]
    simp only [Except.ok.injEq, exists_and_left, exists_eq_left',
      ← ofViolations_eq_ok_iff]
    cases AuditResult.ofViolations registry.size tally.violations <;> simp [Except.mapError]

/-- Whether the violations are few enough for a registry to score them. -/
def Scorable (registry : Registry) (violations : List Violation) : Prop :=
  violations.length ≤ 2 ^ 1000 * registry.size

theorem exists_score_of_scorable {registry : Registry} {violations : List Violation}
    (h : Scorable registry violations) :
    ∃ s, score registry.size violations.length = .ok s := by
  apply exists_score_of_le (j := 1000) le_rfl (Int.natCast_nonneg _)
  exact_mod_cast h

/-- Whether an audit, if its violations can be scored, returns with these violations. -/
def Reports (registry : Registry) (root : Root) (source : String) (checks : Int)
    (violations : List Violation) : Prop :=
  Scorable registry violations → ∃ result, (audit registry root source).value = .ok result ∧
    result.totalChecks = checks ∧ result.violations = violations

section
variable {registry : Registry} {root : Root} {source : String} {full : AuditResult}

theorem audit_keep (p : String → Bool) (h : (audit registry root source).value = .ok full) :
    (audit (registry.keep p) root source).value =
      (AuditResult.ofViolations (registry.keep p).size
        (full.violations.filter fun v => p v.name)).mapError .score := by
  obtain ⟨tally, s, htally, -, rfl⟩ := audit_eq_ok_iff.1 h
  have hempty : Tally.empty.violations = Tally.empty.violations.filter fun v => p v.name := rfl
  obtain ⟨t, ht, hviolations⟩ := tallyElements_keep p htally hempty
  rw [← hviolations]
  exact value_audit ht

theorem reports_keep (p : String → Bool) (h : (audit registry root source).value = .ok full) :
    Reports (registry.keep p) root source (registry.keep p).size
      (full.violations.filter fun v => p v.name) := by
  intro hscorable
  obtain ⟨s, hs⟩ := exists_score_of_scorable hscorable
  rw [audit_keep p h, ofViolations_eq_ok_iff.2 ⟨s, hs, rfl⟩]
  exact ⟨_, rfl, rfl, rfl⟩

theorem name_mem_of_audit (h : (audit registry root source).value = .ok full) :
    ∀ v ∈ full.violations, v.name ∈ registry.names := by
  obtain ⟨tally, s, htally, -, rfl⟩ := audit_eq_ok_iff.1 h
  exact name_mem_of_tallyElements htally (List.forall_mem_nil _)

theorem totalChecks_of_audit (h : (audit registry root source).value = .ok full) :
    full.totalChecks = registry.size := by
  obtain ⟨tally, s, -, -, rfl⟩ := audit_eq_ok_iff.1 h
  rfl

/-- In a registry at the end of a chain of derivations, each rule still finds what it finds in the
first one. Leaving some rules out, or keeping them alone, divides the violations between the two by
the names they bear. -/
theorem audit_derived {rules : List Rule} {steps : List Registry.Derivation} {derived : Registry}
    {names : List String} (hregistry : Registry.ofRules rules = .ok registry)
    (hfull : (audit registry root source).value = .ok full)
    (hderived : registry.derive steps = .ok derived)
    (known : ∀ name ∈ names, name ∈ derived.names) :
    Reports derived root source derived.size
      (full.violations.filter fun v => derived.contains v.name) ∧
    ∃ rest chosen, derived.without names = .ok rest ∧ derived.only names = .ok chosen ∧
      ∀ base, (audit derived root source).value = .ok base →
        Reports rest root source (base.totalChecks - names.dedup.length)
          (base.violations.filter fun v => !names.contains v.name) ∧
        Reports chosen root source names.dedup.length
          (base.violations.filter fun v => names.contains v.name) := by
  have distinct : registry.names.Nodup := by
    obtain ⟨hnodup, rfl⟩ := Registry.ofRules_eq_ok_iff.1 hregistry
    exact hnodup
  obtain ⟨hdistinct, p, rfl⟩ := Registry.derive_eq_ok distinct hderived
  constructor
  · have hfilter : full.violations.filter (fun v => (registry.keep p).contains v.name) =
        full.violations.filter fun v => p v.name := by
      apply List.filter_congr
      intro v hv
      have hname := name_mem_of_audit hfull v hv
      rw [Registry.contains, Registry.names_keep, Bool.eq_iff_iff, List.contains_iff_mem,
        List.mem_filter]
      exact ⟨fun h => h.2, fun h => ⟨hname, h⟩⟩
    rw [hfilter]
    exact reports_keep p hfull
  · refine ⟨_, _, (Registry.without_eq_ok_iff hdistinct).2 ⟨known, rfl⟩,
      (Registry.only_eq_ok_iff hdistinct).2 ⟨known, rfl⟩, ?_⟩
    intro base hbase
    have hchosen := Registry.size_keep_contains hdistinct known
    have hrest := Registry.size_keep_not_contains hdistinct known
    constructor
    · rw [totalChecks_of_audit hbase, ← hrest]
      have h := reports_keep (fun name => !names.contains name) hbase
      push_cast
      rw [add_sub_cancel_right]
      exact h
    · rw [← hchosen]
      exact reports_keep names.contains hbase

end

def tagRule (name : String) (tags : List String) : Rule where
  name := name
  description := ""
  category := .accessibility
  severity := .warn
  detect := fun ctx =>
    .ok (if ctx.element.tag ∈ tags then some ⟨"found " ++ ctx.element.tag, none⟩ else none)

def tagRegistry : Registry :=
  ⟨[tagRule "both" ["p", "q"], tagRule "none" [], tagRule "inner" ["q"]]⟩

def nestedRoot : Root :=
  .node (.element { tag := "p", children := [.element { tag := "q" }] })

def tagViolation (name tag : String) : Violation :=
  ⟨name, "accessibility", "warn", "found " ++ tag, ""⟩

def nestedResult : AuditResult :=
  ⟨3, 0, [tagViolation "both" "p", tagViolation "both" "q", tagViolation "inner" "q"], 0⟩

theorem score_three_three : score 3 3 = .ok 0 := by
  have hpoints : points (share 3 3) = 0 := by decide +kernel
  rw [← hpoints]
  exact score_eq_ok_points (by decide) (by decide) (by decide)

theorem audit_nestedRoot : (audit tagRegistry nestedRoot "").value = .ok nestedResult := by
  have helements : nestedRoot.elements =
      [{ tag := "p", children := [.element { tag := "q" }] }, { tag := "q" }] := by
    rw [Root.elements_eq]
    rfl
  refine audit_eq_ok_iff.2 ⟨⟨nestedResult.violations.toArray⟩, 0, ?_, score_three_three, rfl⟩
  rw [helements]
  rfl

def derivedRegistry : Registry :=
  ⟨[tagRule "both" ["p", "q"], tagRule "inner" ["q"]]⟩

theorem audit_derived_nestedRoot :
    Registry.ofRules tagRegistry.rules = .ok tagRegistry ∧
    (audit tagRegistry nestedRoot "").value = .ok nestedResult ∧
    tagRegistry.derive [.without ["none"], .only ["inner", "both", "inner"]] =
      .ok derivedRegistry ∧
    (∀ name ∈ ["both", "both"], name ∈ derivedRegistry.names) ∧
    Reports derivedRegistry nestedRoot "" derivedRegistry.size
      (nestedResult.violations.filter fun v => derivedRegistry.contains v.name) ∧
    ∃ rest chosen, derivedRegistry.without ["both", "both"] = .ok rest ∧
      derivedRegistry.only ["both", "both"] = .ok chosen ∧
      ∀ base, (audit derivedRegistry nestedRoot "").value = .ok base →
        Reports rest nestedRoot "" (base.totalChecks - ["both", "both"].dedup.length)
          (base.violations.filter fun v => !(["both", "both"].contains v.name)) ∧
        Reports chosen nestedRoot "" ["both", "both"].dedup.length
          (base.violations.filter fun v => ["both", "both"].contains v.name) := by
  have hregistry : Registry.ofRules tagRegistry.rules = .ok tagRegistry := rfl
  have hderived : tagRegistry.derive [.without ["none"], .only ["inner", "both", "inner"]] =
      .ok derivedRegistry := rfl
  have known : ∀ name ∈ ["both", "both"], name ∈ derivedRegistry.names := by decide
  exact ⟨hregistry, audit_nestedRoot, hderived, known,
    audit_derived hregistry audit_nestedRoot hderived known⟩

end MarkupAudit
