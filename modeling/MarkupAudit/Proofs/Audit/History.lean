import MarkupAudit.Proofs.Audit.Independence

/-! Histories of a registry: calls that derive a smaller one, of which those that fail change
nothing. At every moment the rules in use are those of the first registry that all calls so far have
kept, and every other call fails for a name that is not in use. -/
namespace MarkupAudit

theorem firstRepeated_eq_some_iff {seen names : List String} {name : String} :
    firstRepeated seen names = some name ↔ ∃ before after, names = before ++ name :: after ∧
      firstRepeated seen before = none ∧ (name ∈ before ∨ name ∈ seen) := by
  induction names generalizing seen with
  | nil => simp [firstRepeated]
  | cons n rest ih =>
    rw [firstRepeated]
    split
    · rename_i hseen
      constructor
      · rintro ⟨⟩
        exact ⟨[], rest, rfl, rfl, .inr hseen⟩
      · rintro ⟨before, after, hnames, hnew, hname⟩
        cases before with
        | nil =>
          cases hnames
          rfl
        | cons m before =>
          cases hnames
          rw [firstRepeated, if_pos hseen] at hnew
          cases hnew
    · rename_i hseen
      rw [ih]
      constructor
      · rintro ⟨before, after, rfl, hnew, hname⟩
        refine ⟨n :: before, after, rfl, ?_, ?_⟩
        · rw [firstRepeated, if_neg hseen, hnew]
        · simp only [List.mem_cons] at hname ⊢
          tauto
      · rintro ⟨before, after, hnames, hnew, hname⟩
        cases before with
        | nil =>
          cases hnames
          simp [hseen] at hname
        | cons m before =>
          cases hnames
          rw [firstRepeated, if_neg hseen] at hnew
          refine ⟨before, after, rfl, hnew, ?_⟩
          simp only [List.mem_cons] at hname ⊢
          tauto

namespace Registry
variable {r s : Registry}

theorem ofRules_eq_error_iff {rules : List Rule} {e : RegistryError} :
    ofRules rules = .error e ↔ ∃ before rule after, rules = before ++ rule :: after ∧
      (before.map Rule.name).Nodup ∧ rule.name ∈ before.map Rule.name ∧
      e = .duplicateName rule.name := by
  have hfails : ofRules rules = .error e ↔
      ∃ name, firstRepeated [] (rules.map Rule.name) = some name ∧ e = .duplicateName name := by
    unfold ofRules
    cases firstRepeated [] (rules.map Rule.name) <;> simp [eq_comm]
  rw [hfails]
  simp only [firstRepeated_eq_some_iff, firstRepeated_names_eq_none_iff, List.not_mem_nil, or_false]
  constructor
  · rintro ⟨name, ⟨before, after, hnames, hnew, hname⟩, rfl⟩
    obtain ⟨before, rest, rfl, rfl, hrest⟩ := List.map_eq_append_iff.1 hnames
    obtain ⟨rule, after, rfl, rfl, rfl⟩ := List.map_eq_cons_iff.1 hrest
    exact ⟨before, rule, after, rfl, hnew, hname, rfl⟩
  · rintro ⟨before, rule, after, rfl, hnew, hname, rfl⟩
    exact ⟨rule.name, ⟨_, _, by rw [List.map_append, List.map_cons], hnew, hname⟩, rfl⟩

theorem exists_ofRules_eq_error_iff {rules : List Rule} :
    (∃ e, ofRules rules = .error e) ↔ ∃ (i j : Nat) (first second : Rule), i < j ∧
      rules[i]? = some first ∧ rules[j]? = some second ∧ first.name = second.name := by
  have hfails : (∃ e, ofRules rules = .error e) ↔ ¬(rules.map Rule.name).Nodup := by
    rw [← firstRepeated_names_eq_none_iff]
    unfold ofRules
    cases firstRepeated [] (rules.map Rule.name) <;> simp
  rw [hfails, List.nodup_iff_getElem?_ne_getElem?]
  push Not
  constructor
  · rintro ⟨i, j, hij, hj, heq⟩
    rw [List.length_map] at hj
    rw [List.getElem?_map, List.getElem?_map, List.getElem?_eq_getElem hj,
      List.getElem?_eq_getElem (hij.trans hj)] at heq
    exact ⟨i, j, _, _, hij, List.getElem?_eq_getElem _, List.getElem?_eq_getElem _,
      Option.some.inj heq⟩
  · rintro ⟨i, j, first, second, hij, hi, hj, heq⟩
    refine ⟨i, j, hij, ?_, ?_⟩
    · rw [List.length_map]
      exact (List.getElem?_eq_some_iff.1 hj).1
    · rw [List.getElem?_map, List.getElem?_map, hi, hj, Option.map_some, Option.map_some, heq]

def Derivation.names : Derivation → List String
  | .without names => names
  | .only names => names

/-- Whether a call that succeeds keeps the rule of a name. -/
def Derivation.keeps : Derivation → String → Bool
  | .without names, name => !names.contains name
  | .only names, name => names.contains name

theorem Derivation.apply_eq_restrict (step : Derivation) (r : Registry) :
    step.apply r = r.restrict step.names step.keeps := by
  cases step <;> rfl

/-- The registry in use after a call; one that fails leaves it as it is. -/
def Derivation.next (r : Registry) (step : Derivation) : Registry :=
  match step.apply r with
  | .ok s => s
  | .error _ => r

def after (r : Registry) (steps : List Derivation) : Registry :=
  steps.foldl Derivation.next r

def succeeding (r : Registry) : List Derivation → List Derivation
  | [] => []
  | step :: steps =>
    match step.apply r with
    | .ok s => step :: s.succeeding steps
    | .error _ => r.succeeding steps

theorem restrict_eq_error_iff (distinct : r.names.Nodup) {names : List String}
    {p : String → Bool} {e : RegistryError} :
    r.restrict names p = .error e ↔ ∃ before name after, names = before ++ name :: after ∧
      (∀ n ∈ before, n ∈ r.names) ∧ name ∉ r.names ∧ e = .unknownName name := by
  have hfirst (name : String) : r.firstUnknown names = some name ↔ name ∉ r.names ∧
      ∃ before after, names = before ++ name :: after ∧ ∀ n ∈ before, n ∈ r.names := by
    rw [firstUnknown, List.find?_eq_some_iff_append]
    simp [contains]
  have hunknown (name : String) (hname : r.firstUnknown names = some name) :
      r.restrict names p = .error e ↔ e = .unknownName name := by
    rw [restrict, hname]
    simp [eq_comm]
  constructor
  · intro h
    cases hname : r.firstUnknown names with
    | none =>
      have hok := (restrict_eq_ok_iff (p := p) distinct).2 ⟨firstUnknown_eq_none_iff.1 hname, rfl⟩
      rw [h] at hok
      cases hok
    | some name =>
      obtain ⟨hnot, before, after, hnames, hknown⟩ := (hfirst name).1 hname
      exact ⟨before, name, after, hnames, hknown, hnot, (hunknown name hname).1 h⟩
  · rintro ⟨before, name, after, hnames, hknown, hnot, rfl⟩
    exact (hunknown name ((hfirst name).2 ⟨hnot, before, after, hnames, hknown⟩)).2 rfl

def Derivation.Known (r : Registry) (step : Derivation) : Prop :=
  ∀ name ∈ step.names, name ∈ r.names

section
variable (distinct : r.names.Nodup)
include distinct

theorem Derivation.apply_eq_ok_iff {step : Derivation} :
    step.apply r = .ok s ↔ step.Known r ∧ s = r.keep step.keeps := by
  rw [step.apply_eq_restrict]
  exact restrict_eq_ok_iff distinct

/-- What one call does: it keeps some rules, or nothing changes. -/
theorem Derivation.next_cases (step : Derivation) :
    (step.Known r ∧ step.next r = r.keep step.keeps ∧
      ∀ steps, r.succeeding (step :: steps) = step :: (r.keep step.keeps).succeeding steps) ∨
    (¬step.Known r ∧ step.next r = r ∧
      ∀ steps, r.succeeding (step :: steps) = r.succeeding steps) := by
  cases h : step.apply r with
  | ok s =>
    obtain ⟨hknown, rfl⟩ := (apply_eq_ok_iff distinct).1 h
    refine .inl ⟨hknown, ?_, fun steps => ?_⟩
    · rw [next, h]
    · rw [succeeding, h]
  | error e =>
    refine .inr ⟨?_, ?_, fun steps => ?_⟩
    · intro hknown
      rw [(apply_eq_ok_iff distinct).2 ⟨hknown, rfl⟩] at h
      cases h
    · rw [next, h]
    · rw [succeeding, h]

theorem nodup_names_next (step : Derivation) : (step.next r).names.Nodup := by
  rcases Derivation.next_cases distinct step with ⟨-, h, -⟩ | ⟨-, h, -⟩
  · rw [h]
    exact nodup_names_keep distinct _
  · rw [h]
    exact distinct

/-- After any history the rules in use are those that every successful call keeps. -/
theorem after_eq_keep (steps : List Derivation) :
    r.after steps = r.keep fun name => (r.succeeding steps).all fun step => step.keeps name := by
  induction steps generalizing r with
  | nil =>
    rw [keep]
    exact congrArg mk (List.filter_true _).symm
  | cons step steps ih =>
    have hafter : r.after (step :: steps) = (step.next r).after steps := rfl
    rw [hafter, ih (nodup_names_next distinct _)]
    rcases Derivation.next_cases distinct step with ⟨-, hnext, hrest⟩ | ⟨-, hnext, hrest⟩
    · rw [hnext, hrest, keep_keep]
      simp only [List.all_cons, Bool.and_comm]
    · rw [hnext, hrest]

end

inductive Derivation.Alike : Derivation → Derivation → Prop
  | without {names names' : List String} (same : ∀ name, name ∈ names ↔ name ∈ names') :
    Alike (.without names) (.without names')
  | only {names names' : List String} (same : ∀ name, name ∈ names ↔ name ∈ names') :
    Alike (.only names) (.only names')

theorem contains_congr {names names' : List String} (same : ∀ name, name ∈ names ↔ name ∈ names')
    (name : String) : names.contains name = names'.contains name := by
  rw [Bool.eq_iff_iff, List.contains_iff_mem, List.contains_iff_mem, same]

theorem Derivation.Alike.keeps_eq {step step' : Derivation} (h : step.Alike step') :
    step.keeps = step'.keeps := by
  funext name
  cases h with
  | without same => rw [keeps, keeps, contains_congr same]
  | only same => rw [keeps, keeps, contains_congr same]

theorem Derivation.Alike.mem_names_iff {step step' : Derivation} (h : step.Alike step')
    (name : String) : name ∈ step.names ↔ name ∈ step'.names := by
  cases h with
  | without same => exact same name
  | only same => exact same name

theorem Derivation.Alike.next_eq (distinct : r.names.Nodup) {step step' : Derivation}
    (h : step.Alike step') : step.next r = step'.next r := by
  have hknown : step.Known r ↔ step'.Known r :=
    forall_congr' fun name => imp_congr_left (h.mem_names_iff name)
  rcases next_cases distinct step with ⟨hk, hn, -⟩ | ⟨hk, hn, -⟩
  all_goals rcases next_cases distinct step' with ⟨hk', hn', -⟩ | ⟨hk', hn', -⟩
  · rw [hn, hn', h.keeps_eq]
  · exact absurd (hknown.1 hk) hk'
  · exact absurd (hknown.2 hk') hk
  · rw [hn, hn']

theorem after_eq_of_alike (distinct : r.names.Nodup) {steps steps' : List Derivation}
    (h : List.Forall₂ Derivation.Alike steps steps') : r.after steps = r.after steps' := by
  induction h generalizing r with
  | nil => rfl
  | @cons step step' steps steps' hstep _ ih =>
    change (step.next r).after steps = (step'.next r).after steps'
    rw [ih (nodup_names_next distinct _), hstep.next_eq distinct]

/-- What a registry answers that was derived from one with the given rules. -/
structure DerivedFrom (rules : List Rule) (r : Registry) : Prop where
  sublist : r.rules.Sublist rules
  distinct : (r.rules.map Rule.name).Nodup
  size_eq : r.size = r.rules.length
  names_eq : r.names = r.rules.map Rule.name
  contains_iff : ∀ name, r.contains name ↔ ∃ rule ∈ r.rules, rule.name = name
  get?_eq_some_iff : ∀ name rule, r.get? name = some rule ↔ rule ∈ r.rules ∧ rule.name = name
  isSome_get? : ∀ name, (r.get? name).isSome = r.contains name
  fails_iff : ∀ step : Derivation,
    (∃ e, step.apply r = .error e) ↔ ∃ name ∈ step.names, ¬r.contains name
  error_iff : ∀ (step : Derivation) e, step.apply r = .error e ↔
    ∃ before name after, step.names = before ++ name :: after ∧
      (∀ n ∈ before, r.contains n) ∧ ¬r.contains name ∧ e = .unknownName name
  parts : ∀ names, (∀ name ∈ names, r.contains name) → ∃ rest chosen,
    r.without names = .ok rest ∧ r.only names = .ok chosen ∧
    rest.rules.Sublist r.rules ∧ chosen.rules.Sublist r.rules ∧
    (rest.rules ++ chosen.rules).Perm r.rules ∧
    (∀ rule ∈ rest.rules, rule.name ∉ names) ∧ ∀ rule ∈ chosen.rules, rule.name ∈ names

theorem contains_iff_mem_names {name : String} : r.contains name ↔ name ∈ r.names :=
  List.contains_iff_mem

section
variable (distinct : r.names.Nodup)
include distinct

theorem get?_eq_some_iff {name : String} {rule : Rule} :
    r.get? name = some rule ↔ rule ∈ r.rules ∧ rule.name = name := by
  constructor
  · intro h
    exact ⟨List.mem_of_find?_eq_some h, by simpa using List.find?_some h⟩
  · rintro ⟨hmem, rfl⟩
    have hsome : (r.get? rule.name).isSome := List.find?_isSome.2 ⟨rule, hmem, by simp⟩
    obtain ⟨other, hother⟩ := Option.isSome_iff_exists.1 hsome
    have hname : other.name = rule.name := by simpa using List.find?_some hother
    rw [hother, List.inj_on_of_nodup_map distinct (List.mem_of_find?_eq_some hother) hmem hname]

theorem exists_parts {names : List String} (known : ∀ name ∈ names, name ∈ r.names) :
    ∃ rest chosen, r.without names = .ok rest ∧ r.only names = .ok chosen ∧
      rest.rules.Sublist r.rules ∧ chosen.rules.Sublist r.rules ∧
      (rest.rules ++ chosen.rules).Perm r.rules ∧
      (∀ rule ∈ rest.rules, rule.name ∉ names) ∧ ∀ rule ∈ chosen.rules, rule.name ∈ names := by
  refine ⟨_, _, (without_eq_ok_iff distinct).2 ⟨known, rfl⟩,
    (only_eq_ok_iff distinct).2 ⟨known, rfl⟩, List.filter_sublist, List.filter_sublist, ?_, ?_, ?_⟩
  · apply List.perm_append_comm.trans
    exact List.filter_append_perm _ _
  · intro rule hrule
    simpa using (List.mem_filter.1 hrule).2
  · intro rule hrule
    simpa using (List.mem_filter.1 hrule).2

theorem derivedFrom {rules : List Rule} (h : r.rules.Sublist rules) : DerivedFrom rules r where
  sublist := h
  distinct := distinct
  size_eq := rfl
  names_eq := rfl
  contains_iff name := by
    rw [contains_iff_mem_names, names, List.mem_map]
  get?_eq_some_iff name rule := get?_eq_some_iff distinct
  isSome_get? name := by
    rw [Bool.eq_iff_iff, contains_iff_mem_names, get?, List.find?_isSome, names, List.mem_map]
    simp
  fails_iff step := by
    simp only [contains_iff_mem_names]
    constructor
    · rintro ⟨e, he⟩
      by_contra hknown
      push Not at hknown
      rw [(Derivation.apply_eq_ok_iff distinct).2 ⟨hknown, rfl⟩] at he
      cases he
    · rintro ⟨name, hname, hnot⟩
      cases hs : step.apply r with
      | error e => exact ⟨e, rfl⟩
      | ok s => exact absurd (((Derivation.apply_eq_ok_iff distinct).1 hs).1 name hname) hnot
  error_iff step e := by
    simp only [contains_iff_mem_names, step.apply_eq_restrict, restrict_eq_error_iff distinct]
  parts names known := by
    simp only [contains_iff_mem_names] at known
    exact exists_parts distinct known

end

/-- Rules make up a registry unless two of them share a name; then the first one is named that
another of its name comes before. Whatever calls follow, the rules in use are those of the registry
that every call which succeeded keeps, and how often and in what order a call gives its names makes
no difference. -/
theorem after_derivedFrom :
    (∀ rules : List Rule,
      ((∃ e, ofRules rules = .error e) ↔ ∃ (i j : Nat) (first second : Rule), i < j ∧
        rules[i]? = some first ∧ rules[j]? = some second ∧ first.name = second.name) ∧
      ∀ e, ofRules rules = .error e ↔ ∃ before rule after, rules = before ++ rule :: after ∧
        (before.map Rule.name).Nodup ∧ rule.name ∈ before.map Rule.name ∧
        e = .duplicateName rule.name) ∧
    ∀ (rules : List Rule) (first : Registry), ofRules rules = .ok first →
      first.rules = rules ∧ ∀ steps : List Derivation,
        DerivedFrom rules (first.after steps) ∧
        (first.after steps).rules = (rules.filter fun rule =>
          (first.succeeding steps).all fun step => step.keeps rule.name) ∧
        ∀ steps', List.Forall₂ Derivation.Alike steps steps' →
          first.after steps = first.after steps' := by
  refine ⟨fun rules => ⟨exists_ofRules_eq_error_iff, fun e => ofRules_eq_error_iff⟩, ?_⟩
  intro rules first hfirst
  obtain ⟨distinct, rfl⟩ := ofRules_eq_ok_iff.1 hfirst
  refine ⟨rfl, fun steps => ?_⟩
  have hafter := after_eq_keep (r := ⟨rules⟩) distinct steps
  refine ⟨?_, ?_, fun steps' h => after_eq_of_alike distinct h⟩
  · rw [hafter]
    exact derivedFrom (nodup_names_keep distinct _) List.filter_sublist
  · rw [hafter]
    rfl

/-- Two of the calls fail: no rule is called that, or is not any more. -/
def mixedHistory : List Derivation :=
  [.without ["none", "absent"], .only ["inner", "both", "inner"], .without ["none"],
    .without ["inner"]]

theorem after_derivedFrom_mixedHistory :
    ofRules tagRegistry.rules = .ok tagRegistry ∧
    (tagRegistry.after mixedHistory).names = ["both"] ∧
    DerivedFrom tagRegistry.rules (tagRegistry.after mixedHistory) ∧
    tagRegistry.succeeding mixedHistory = [.only ["inner", "both", "inner"], .without ["inner"]] ∧
    (tagRegistry.after mixedHistory).rules = (tagRegistry.rules.filter fun rule =>
      (tagRegistry.succeeding mixedHistory).all fun step => step.keeps rule.name) ∧
    tagRegistry.after mixedHistory = tagRegistry.after [.without ["absent", "none"],
      .only ["both", "inner"], .without ["none", "none"], .without ["inner"]] ∧
    ofRules (tagRegistry.rules ++ [tagRule "none" ["p"], tagRule "both" []]) =
      .error (.duplicateName "none") := by
  have hregistry : ofRules tagRegistry.rules = .ok tagRegistry := rfl
  have halike : List.Forall₂ Derivation.Alike mixedHistory [.without ["absent", "none"],
      .only ["both", "inner"], .without ["none", "none"], .without ["inner"]] := by
    refine .cons (.without ?_) (.cons (.only ?_) (.cons (.without ?_) (.cons (.without ?_) .nil)))
    all_goals
      intro name
      simp only [List.mem_cons, List.not_mem_nil, or_false, or_self]
    · exact or_comm
    · tauto
  obtain ⟨hmade, hhistory⟩ := after_derivedFrom
  obtain ⟨-, hsteps⟩ := hhistory _ _ hregistry
  obtain ⟨hderived, hrules, hsame⟩ := hsteps mixedHistory
  refine ⟨hregistry, rfl, hderived, rfl, hrules, hsame _ halike, ?_⟩
  refine ((hmade _).2 _).2 ⟨tagRegistry.rules, tagRule "none" ["p"], [tagRule "both" []], rfl, ?_⟩
  exact ⟨by decide, by decide, rfl⟩

end Registry

end MarkupAudit
