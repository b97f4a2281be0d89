import MarkupAudit.Proofs.Audit.Independence
import MarkupAudit.Proofs.Source.Parse
import MarkupAudit.Proofs.Source.Refinement
import MarkupAudit.Proofs.Source.Visits
import MarkupAudit.Proofs.Text.Position

/-! Where violations are found: a rule finds no two violations at one place. -/
namespace MarkupAudit

/-! Positions as they are written. -/

def locationText (line column : Nat) : String :=
  toString line ++ ":" ++ toString column

theorem toDigits_injective {m n : Nat} (h : Nat.toDigits 10 m = Nat.toDigits 10 n) : m = n := by
  rw [← Nat.ofDigitChars_ten_toDigits (n := m), h, Nat.ofDigitChars_ten_toDigits]

theorem toList_locationText (line column : Nat) :
    (locationText line column).toList = Nat.toDigits 10 line ++ ':' :: Nat.toDigits 10 column := by
  simp [locationText]

theorem colon_notMem_toDigits (n : Nat) : ':' ∉ Nat.toDigits 10 n := by
  intro h
  have hdigit := Nat.isDigit_of_mem_toDigits (by decide) (by decide) h
  revert hdigit
  decide

theorem locationText_injective {line line' column column' : Nat}
    (h : locationText line column = locationText line' column') : line = line' ∧ column = column' := by
  have hlist := congrArg String.toList h
  rw [toList_locationText, toList_locationText, List.append_cons_inj_of_notMem
    (colon_notMem_toDigits _) (colon_notMem_toDigits _)] at hlist
  exact ⟨toDigits_injective hlist.1, toDigits_injective hlist.2.2⟩

theorem location_of_standsFor {bytes : Array UInt8} {n : SourceNode} {e : Element}
    (h : n.StandsFor bytes e) : e.location =
      locationText (Text.positionAt bytes n.start).line (Text.positionAt bytes n.start).column := by
  rw [Element.location, h.line, h.column]
  rfl

/-! The violations of the elements of one run. -/

theorem location_of_check {r : Rule} {ctx : RuleContext} {found : Option Violation}
    (h : r.check ctx = .ok found) : ∀ v ∈ found, v.location = ctx.element.location := by
  obtain ⟨finding?, -, rfl⟩ := Outcome.map_eq_ok_iff.1 h
  intro v hv
  obtain ⟨finding, -, rfl⟩ := Option.map_eq_some_iff.1 hv
  rfl

theorem location_of_runRules {rules : List Rule} {ctx : RuleContext} {found : List Violation}
    (h : runRules rules ctx = .ok found) : ∀ v ∈ found, v.location = ctx.element.location := by
  induction rules generalizing found with
  | nil =>
    cases h
    exact List.forall_mem_nil _
  | cons r rest ih =>
    obtain ⟨first, others, hfirst, hothers, rfl⟩ := runRules_cons_eq_ok_iff.1 h
    intro v hv
    rcases List.mem_append.1 hv with hv | hv
    · exact location_of_check hfirst v (Option.mem_toList.1 hv)
    · exact ih hothers v hv

theorem names_sublist_of_runRules {rules : List Rule} {ctx : RuleContext} {found : List Violation}
    (h : runRules rules ctx = .ok found) :
    (found.map Violation.name).Sublist (rules.map Rule.name) := by
  induction rules generalizing found with
  | nil =>
    cases h
    exact List.Sublist.refl _
  | cons r rest ih =>
    obtain ⟨first, others, hfirst, hothers, rfl⟩ := runRules_cons_eq_ok_iff.1 h
    cases first with
    | none => exact (ih hothers).cons _
    | some v =>
      rw [Option.toList_some, List.singleton_append, List.map_cons, List.map_cons,
        name_of_check hfirst v rfl]
      exact (ih hothers).cons_cons _

/-- What identifies a violation. -/
def Violation.place (v : Violation) : String × String :=
  (v.name, v.location)

theorem nodup_places_of_runRules {rules : List Rule} {ctx : RuleContext} {found : List Violation}
    (distinct : (rules.map Rule.name).Nodup) (h : runRules rules ctx = .ok found) :
    (found.map Violation.place).Nodup := by
  apply List.Nodup.of_map Prod.fst
  rw [List.map_map]
  exact distinct.sublist (names_sublist_of_runRules h)

section
variable {registry : Registry} {source : String} {tally total : Tally} {elements : List Element}
  (h : tallyElements registry source tally elements = .ok total)
include h

theorem location_mem_of_tallyElements :
    ∀ v ∈ total.violations, v ∈ tally.violations ∨ ∃ e ∈ elements, v.location = e.location := by
  induction elements generalizing tally with
  | nil =>
    cases h
    exact fun v hv => .inl hv
  | cons e rest ih =>
    obtain ⟨found, hfound, hrest⟩ := tallyElements_cons_eq_ok_iff.1 h
    intro v hv
    rcases ih hrest v hv with hv | ⟨e', he', hv⟩
    · rw [Tally.violations_extend] at hv
      rcases List.mem_append.1 hv with hv | hv
      · exact .inl hv
      · exact .inr ⟨e, List.mem_cons_self, location_of_runRules hfound v hv⟩
    · exact .inr ⟨e', List.mem_cons_of_mem e he', hv⟩

/-- Elements at different places add violations at new places only. -/
theorem nodup_places_of_tallyElements (distinct : registry.names.Nodup)
    (apart : (elements.map Element.location).Nodup)
    (hold : (tally.violations.map Violation.place).Nodup)
    (hnew : ∀ v ∈ tally.violations, v.location ∉ elements.map Element.location) :
    (total.violations.map Violation.place).Nodup := by
  induction elements generalizing tally with
  | nil =>
    cases h
    exact hold
  | cons e rest ih =>
    obtain ⟨found, hfound, hrest⟩ := tallyElements_cons_eq_ok_iff.1 h
    have hlocation := location_of_runRules hfound
    rw [List.map_cons, List.nodup_cons] at apart
    apply ih hrest apart.2
    · rw [Tally.violations_extend, List.map_append, List.nodup_append']
      refine ⟨hold, nodup_places_of_runRules distinct hfound, ?_⟩
      intro place hplace hfoundPlace
      obtain ⟨v, hv, rfl⟩ := List.mem_map.1 hplace
      obtain ⟨w, hw, hvw⟩ := List.mem_map.1 hfoundPlace
      have hlocations : w.location = v.location := congrArg Prod.snd hvw
      apply hnew v hv
      rw [← hlocations, hlocation w hw]
      exact List.mem_cons_self
    · intro v hv
      rw [Tally.violations_extend] at hv
      rcases List.mem_append.1 hv with hv | hv
      · exact fun hmem => hnew v hv (List.mem_cons_of_mem _ hmem)
      · rw [hlocation v hv]
        exact apart.1

end

/-! Rules that never give up. -/

theorem exists_runRules {rules : List Rule} {ctx : RuleContext}
    (quiet : ∀ r ∈ rules, ∃ finding?, r.detect ctx = .ok finding?) :
    ∃ found, runRules rules ctx = .ok found := by
  induction rules with
  | nil => exact ⟨[], rfl⟩
  | cons r rest ih =>
    obtain ⟨finding?, hfinding⟩ := quiet r List.mem_cons_self
    obtain ⟨others, hothers⟩ := ih fun s hs => quiet s (List.mem_cons_of_mem r hs)
    have hcheck : r.check ctx = .ok (finding?.map (r.violation ctx.element)) := by
      rw [Rule.check, hfinding]
      rfl
    exact ⟨_, runRules_cons_eq_ok_iff.2 ⟨_, others, hcheck, hothers, rfl⟩⟩

theorem exists_tallyElements {registry : Registry} {source : String}
    (quiet : ∀ r ∈ registry.rules, ∀ ctx, ∃ finding?, r.detect ctx = .ok finding?)
    (tally : Tally) (elements : List Element) :
    ∃ total, tallyElements registry source tally elements = .ok total := by
  induction elements generalizing tally with
  | nil => exact ⟨tally, rfl⟩
  | cons e rest ih =>
    obtain ⟨found, hfound⟩ := exists_runRules fun r hr => quiet r hr ⟨e, source⟩
    obtain ⟨total, htotal⟩ := ih (tally.extend found)
    exact ⟨total, tallyElements_cons_eq_ok_iff.2 ⟨found, hfound, htotal⟩⟩

/-! The places of the elements of a source. -/

def SourceNode.isElement (n : SourceNode) : Bool :=
  n.kind == "jsx_element" || n.kind == "jsx_self_closing_element"

/-- Whether the elements of a tree are told apart by where they start in a source, each between two
characters of it. -/
structure SourceNode.Placed (tree : SourceNode) (source : String) : Prop where
  tags_open : tree.TagsOpen
  starts_apart : ∀ m ∈ tree.nodes, ∀ n ∈ tree.nodes, m.isElement → n.isElement →
    m.start = n.start → m = n
  starts_between : ∀ n ∈ tree.nodes, n.isElement → String.Pos.Raw.IsValid source ⟨n.start⟩

theorem isElement_of_isNamedElement {n : SourceNode} (h : n.isNamedElement) : n.isElement :=
  (Bool.and_eq_true_iff.1 h).1

theorem map_location_of_standsFor {bytes : Array UInt8} {ns : List SourceNode} {es : List Element}
    (h : List.Forall₂ (SourceNode.StandsFor bytes) ns es) :
    es.map Element.location = ns.map fun n =>
      locationText (Text.positionAt bytes n.start).line (Text.positionAt bytes n.start).column := by
  induction h with
  | nil => rfl
  | cons hne _ ih => rw [List.map_cons, List.map_cons, location_of_standsFor hne, ih]

section
variable {source : String} {tree : SourceNode} {d : Document} (distinct : tree.DistinctIds)
  (hd : Document.ofTree (Text.Utf8.bytesOf source) tree = .ok d)
include distinct hd

theorem standsFor_of_ofTree : List.Forall₂ (SourceNode.StandsFor (Text.Utf8.bytesOf source))
    (tree.outermostMarkup.flatMap SourceNode.walkedNodes) (Root.document d).elements := by
  have hroots : ∀ r ∈ tree.outermostMarkup, r ∈ tree.nodes ∧ r.isContainer :=
    fun r hr => SourceNode.isContainer_of_mem_outermostMarkup hr
  have hconvert := (Document.ofTree_eq_ok_iff.1 hd).2
  rw [Root.elements_eq, Root.nodes, elementsOf_eq_flatMap]
  apply Outcome.forall₂_flatMap_of_mapM (Conversion.recursion_of_convert distinct hroots hconvert)
  intro r hr
  exact (SourceNode.visits _ r).node (hroots r hr).2

theorem nodup_locations (placed : tree.Placed source) :
    ((Root.document d).elements.map Element.location).Nodup := by
  have hmem : ∀ n ∈ tree.outermostMarkup.flatMap SourceNode.walkedNodes,
      n ∈ tree.nodes ∧ n.isElement := by
    intro n hn
    refine ⟨(SourceNode.outermost_walkedNodes_subperm placed.tags_open).subset hn, ?_⟩
    obtain ⟨r, -, hr⟩ := List.mem_flatMap.1 hn
    exact isElement_of_isNamedElement (SourceNode.isNamedElement_of_mem_walkedNodes hr)
  rw [map_location_of_standsFor (standsFor_of_ofTree distinct hd)]
  apply List.Nodup.map_on _ (SourceNode.nodup_outermost_walkedNodes placed.tags_open distinct)
  intro m hm n hn hplace
  obtain ⟨hline, hcolumn⟩ := locationText_injective hplace
  have hposition : Text.positionAt (Text.Utf8.bytesOf source) m.start =
      Text.positionAt (Text.Utf8.bytesOf source) n.start := by
    cases h : Text.positionAt (Text.Utf8.bytesOf source) m.start
    rw [h] at hline hcolumn
    dsimp only at hline hcolumn
    rw [hline, hcolumn]
  obtain ⟨hm, hme⟩ := hmem m hm
  obtain ⟨hn, hne⟩ := hmem n hn
  apply placed.starts_apart m hm n hn hme hne
  exact Text.positionAt_inj (placed.starts_between m hm hme) (placed.starts_between n hn hne)
    hposition

theorem location_of_mem_elements {e : Element} (he : e ∈ (Root.document d).elements) :
    ∃ line column, 1 ≤ line ∧ 1 ≤ column ∧ e.location = locationText line column := by
  have hlocation := List.mem_map_of_mem (f := Element.location) he
  rw [map_location_of_standsFor (standsFor_of_ofTree distinct hd)] at hlocation
  obtain ⟨n, -, hn⟩ := List.mem_map.1 hlocation
  exact ⟨_, _, Nat.le_add_left _ _, Nat.le_add_left _ _, hn.symm⟩

end

theorem value_auditSource {grammar : Grammar} {registry : Registry} {source : String}
    {tree : SourceNode} (parsed : grammar source = some tree) :
    (auditSource grammar registry source).value =
      match Document.ofTree (Text.Utf8.bytesOf source) tree with
      | .ok d => (audit registry (.document d) source).value
      | .error e => .error (.ofParse e) := by
  simp only [auditSource, parseSource, parsed]
  cases Document.ofTree (Text.Utf8.bytesOf source) tree <;> rfl

theorem nodup_places_of_audit {registry : Registry} {root : Root} {source : String}
    {result : AuditResult} (distinct : registry.names.Nodup)
    (apart : (root.elements.map Element.location).Nodup)
    (h : (audit registry root source).value = .ok result) :
    (result.violations.map Violation.place).Nodup := by
  obtain ⟨tally, s, htally, -, rfl⟩ := audit_eq_ok_iff.1 h
  exact nodup_places_of_tallyElements htally distinct apart List.nodup_nil
    (List.forall_mem_nil _)

theorem location_mem_of_audit {registry : Registry} {root : Root} {source : String}
    {result : AuditResult} (h : (audit registry root source).value = .ok result) :
    ∀ v ∈ result.violations, ∃ e ∈ root.elements, v.location = e.location := by
  obtain ⟨tally, s, htally, -, rfl⟩ := audit_eq_ok_iff.1 h
  intro v hv
  exact (location_mem_of_tallyElements htally v hv).resolve_left List.not_mem_nil

/-- When rules never give up, the audit of a tree without faults can only fail for a node that cannot
be converted or for too many violations to score. Each violation is at a line and a column, and no
rule finds two violations at one of them. -/
theorem auditSource_places {grammar : Grammar} {rules : List Rule} {registry : Registry}
    {source : String} {tree : SourceNode} (parsed : grammar source = some tree)
    (sound : tree.hasError = false) (distinct : tree.DistinctIds) (placed : tree.Placed source)
    (hregistry : Registry.ofRules rules = .ok registry)
    (quiet : ∀ r ∈ rules, ∀ ctx, ∃ finding?, r.detect ctx = .ok finding?) :
    (∃ failure, (auditSource grammar registry source).value = .error (.conversion failure)) ∨
    (∃ failure, (auditSource grammar registry source).value = .error (.score failure)) ∨
    ∃ result, (auditSource grammar registry source).value = .ok result ∧
      (∀ v ∈ result.violations, ∃ line column : Nat, 1 ≤ line ∧ 1 ≤ column ∧
        v.location = toString line ++ ":" ++ toString column) ∧
      (result.violations.map fun v => (v.name, v.location)).Nodup := by
  obtain ⟨hnames, rfl⟩ := Registry.ofRules_eq_ok_iff.1 hregistry
  rw [value_auditSource parsed]
  cases hd : Document.ofTree (Text.Utf8.bytesOf source) tree with
  | error e =>
    obtain ⟨failure, rfl⟩ := conversion_of_ofTree_error sound hd
    exact .inl ⟨failure, rfl⟩
  | ok d =>
    right
    dsimp only
    obtain ⟨tally, htally⟩ : ∃ tally,
        tallyElements ⟨rules⟩ source .empty (Root.document d).elements = .ok tally :=
      exists_tallyElements quiet .empty _
    rw [value_audit htally]
    cases hresult : AuditResult.ofViolations _ _ with
    | error failure => exact .inl ⟨failure, rfl⟩
    | ok result =>
      have haudit : (audit ⟨rules⟩ (.document d) source).value = .ok result := by
        rw [value_audit htally, hresult]
        rfl
      refine .inr ⟨result, rfl, ?_, ?_⟩
      · intro v hv
        obtain ⟨e, he, hlocation⟩ := location_mem_of_audit haudit v hv
        rw [hlocation]
        exact location_of_mem_elements distinct hd he
      · exact nodup_places_of_audit hnames (nodup_locations distinct hd placed) haudit

section
open SourceNode Conversion

def sequenceText : String :=
  "<p/>,é,<q></q>"

def closedNode : SourceNode :=
  ⟨3, "jsx_self_closing_element", 0, 4, true, none, false, false, [
    token 4 0 "<",
    ⟨5, "identifier", 1, 2, true, some "name", false, false, []⟩,
    token 6 2 "/>"]⟩

def openedNode : SourceNode :=
  ⟨10, "jsx_element", 8, 15, true, none, false, false, [
    ⟨11, "jsx_opening_element", 8, 11, true, some "open_tag", false, false, [
      token 12 8 "<",
      ⟨13, "identifier", 9, 10, true, some "name", false, false, []⟩,
      token 14 10 ">"]⟩,
    ⟨15, "jsx_closing_element", 11, 15, true, some "close_tag", false, false, [
      token 16 11 "</",
      ⟨17, "identifier", 13, 14, true, some "name", false, false, []⟩,
      token 18 14 ">"]⟩]⟩

def sequenceMarkup : SourceNode :=
  ⟨0, "program", 0, 15, true, none, false, false, [
    ⟨1, "expression_statement", 0, 15, true, none, false, false, [
      ⟨2, "sequence_expression", 0, 15, true, none, false, false, [
        closedNode,
        token 7 4 ",",
        ⟨8, "identifier", 5, 7, true, none, false, false, []⟩,
        token 9 7 ",",
        openedNode]⟩]⟩]⟩

def sequenceDocument : Document :=
  ⟨[.element { tag := "p", line := some 1, column := some 1 },
    .element { tag := "q", line := some 1, column := some 8 }]⟩

theorem sequenceMarkup_distinctIds : sequenceMarkup.DistinctIds := by
  unfold DistinctIds
  decide

theorem sequenceMarkup_placed : sequenceMarkup.Placed sequenceText where
  tags_open := by
    intro n hn hk t ht
    have hmem : n ∈ sequenceMarkup.nodes.filter (·.kind == "jsx_element") :=
      List.mem_filter.2 ⟨hn, by simpa using hk⟩
    have helements : sequenceMarkup.nodes.filter (·.kind == "jsx_element") = [openedNode] := rfl
    rw [helements, List.mem_singleton] at hmem
    subst hmem
    cases ht
    rfl
  starts_apart := by
    have hids : ∀ m ∈ sequenceMarkup.nodes, ∀ n ∈ sequenceMarkup.nodes, m.isElement →
        n.isElement → m.start = n.start → m.id = n.id := by
      decide
    intro m hm n hn hme hne hstart
    exact sequenceMarkup_distinctIds.eq_of_id_eq hm hn (hids m hm n hn hme hne hstart)
  starts_between := by decide +kernel

theorem outermostMarkup_sequenceMarkup :
    sequenceMarkup.outermostMarkup = [closedNode, openedNode] := by
  simp [outermostMarkup, sequenceMarkup, collectMarkup, isMarkup, closedNode, openedNode, token]

theorem ofTree_sequenceMarkup :
    Document.ofTree (Text.Utf8.bytesOf sequenceText) sequenceMarkup = .ok sequenceDocument := by
  have named : sequenceMarkup.AttributesNamed := by
    unfold AttributesNamed
    decide
  have hcontent : openedNode.contentNodes.mapM (childIn (Text.Utf8.bytesOf sequenceText)) =
      .ok [none, none] := by
    simp [openedNode, contentNodes, isSelfClosing, namedChildren, childIn, isContainer, isMarkup,
      isExpression]
    rfl
  have hnodes : sequenceMarkup.outermostMarkup.mapM (nodeIn (Text.Utf8.bytesOf sequenceText)) =
      .ok sequenceDocument.children := by
    rw [outermostMarkup_sequenceMarkup, List.mapM_cons, List.mapM_cons, nodeIn, nodeIn,
      if_neg (by decide), if_neg (by decide), elementIn_eq, elementIn_eq, hcontent]
    rfl
  have hroots : ∀ r ∈ sequenceMarkup.outermostMarkup, r ∈ sequenceMarkup.nodes ∧ r.isContainer :=
    fun r hr => isContainer_of_mem_outermostMarkup hr
  exact Document.ofTree_eq_ok_iff.2
    ⟨rfl, convert_eq_of_recursion sequenceMarkup_distinctIds named hroots hnodes⟩

end

def sequenceResult : AuditResult :=
  ⟨3, 0, [⟨"both", "accessibility", "warn", "found p", "1:1"⟩,
    ⟨"both", "accessibility", "warn", "found q", "1:8"⟩,
    ⟨"inner", "accessibility", "warn", "found q", "1:8"⟩], 0⟩

theorem elements_sequenceDocument : (Root.document sequenceDocument).elements =
    [{ tag := "p", line := some 1, column := some 1 },
      { tag := "q", line := some 1, column := some 8 }] := by
  rw [Root.elements_eq]
  rfl

theorem audit_sequenceDocument :
    (audit tagRegistry (.document sequenceDocument) sequenceText).value = .ok sequenceResult := by
  refine audit_eq_ok_iff.2 ⟨⟨sequenceResult.violations.toArray⟩, 0, ?_, score_three_three, rfl⟩
  rw [elements_sequenceDocument]
  rfl

theorem auditSource_places_sequenceText :
    sequenceMarkup.hasError = false ∧ sequenceMarkup.DistinctIds ∧
    sequenceMarkup.Placed sequenceText ∧ Registry.ofRules tagRegistry.rules = .ok tagRegistry ∧
    (∀ r ∈ tagRegistry.rules, ∀ ctx, ∃ finding?, r.detect ctx = .ok finding?) ∧
    (auditSource (fun _ => some sequenceMarkup) tagRegistry sequenceText).value =
      .ok sequenceResult ∧
    (∀ v ∈ sequenceResult.violations, ∃ line column : Nat, 1 ≤ line ∧ 1 ≤ column ∧
      v.location = toString line ++ ":" ++ toString column) ∧
    (sequenceResult.violations.map fun v => (v.name, v.location)).Nodup := by
  have hregistry : Registry.ofRules tagRegistry.rules = .ok tagRegistry := rfl
  have quiet : ∀ r ∈ tagRegistry.rules, ∀ ctx, ∃ finding?, r.detect ctx = .ok finding? := by
    intro r hr ctx
    simp only [tagRegistry, List.mem_cons, List.not_mem_nil, or_false] at hr
    rcases hr with rfl | rfl | rfl
    all_goals exact ⟨_, rfl⟩
  have hresult : (auditSource (fun _ => some sequenceMarkup) tagRegistry sequenceText).value =
      .ok sequenceResult := by
    rw [value_auditSource rfl, ofTree_sequenceMarkup]
    exact audit_sequenceDocument
  refine ⟨rfl, sequenceMarkup_distinctIds, sequenceMarkup_placed, hregistry, quiet, hresult, ?_⟩
  have hplaces := @auditSource_places (fun _ => some sequenceMarkup) _ _ _ _ rfl rfl
    sequenceMarkup_distinctIds sequenceMarkup_placed hregistry quiet
  rw [hresult] at hplaces
  rcases hplaces with ⟨failure, h⟩ | ⟨failure, h⟩ | ⟨result, h, hplaces⟩
  · cases h
  · cases h
  · cases h
    exact hplaces

end MarkupAudit
