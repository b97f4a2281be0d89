import MarkupAudit.Proofs.Markup.Walk
import MarkupAudit.Proofs.Source.Recursion
import MarkupAudit.Proofs.Source.Walked

/-! What a walk over converted markup meets: for every node that is left by the conversion, in order,
the element that the node is converted to. -/
namespace MarkupAudit.SourceNode

/-- Whether an element is what a node of a source tree is converted to. It has the tag that is
written there and the position at which the node starts. -/
structure StandsFor (bytes : Array UInt8) (n : SourceNode) (e : Element) : Prop where
  converted : n.elementIn bytes = .ok (.element e)
  tag : ∃ t name, Conversion.namedTag? n = some (t, name) ∧ name.textIn bytes = .ok e.tag
  line : e.line = some (Text.positionAt bytes n.start).line
  column : e.column = some (Text.positionAt bytes n.start).column

/-- Whether the walk over what a node is converted to meets the elements that are left of those at and
below the node. -/
structure Visits (bytes : Array UInt8) (n : SourceNode) : Prop where
  node : n.isContainer → ∀ m, n.nodeIn bytes = .ok m →
    List.Forall₂ (StandsFor bytes) n.walkedNodes m.elements
  expression : n.isExpression → ∀ e, n.expressionIn bytes = .ok e →
    List.Forall₂ (StandsFor bytes) n.walkedNodes e.elements
  attr : n.kind = "jsx_attribute" → ∀ a, n.attributeIn bytes = .ok a →
    List.Forall₂ (StandsFor bytes) n.walkedNodes (elementsOf a.value.children)

section
variable {bytes : Array UInt8} {n : SourceNode}

theorem assembled_eq_ok {attributes : List Attribute} {spreads : List Expression}
    {children : List Node} {m : Node}
    (h : n.assembled bytes attributes spreads children = .ok m) :
    (Conversion.namedTag? n = none ∧ m = .fragment children) ∨
    ∃ t name e, Conversion.namedTag? n = some (t, name) ∧ m = .element e ∧
      name.textIn bytes = .ok e.tag ∧
      e.line = some (Text.positionAt bytes n.start).line ∧
      e.column = some (Text.positionAt bytes n.start).column ∧
      e.nested = attributes.flatMap (·.value.children) ++
        (spreads.flatMap Expression.children ++ children) := by
  unfold assembled at h
  split at h
  · rename_i hnone
    exact .inl ⟨hnone, (Except.ok.inj h).symm⟩
  · rename_i t name hsome
    obtain ⟨text, htext, h⟩ := Outcome.bind_eq_ok_iff.1 h
    exact .inr ⟨t, name, _, hsome, (Except.ok.inj h).symm, htext, rfl, rfl, rfl⟩

theorem isNamedElement_of_namedTag? {tag : SourceNode × SourceNode} (hm : n.isMarkup)
    (h : Conversion.namedTag? n = some tag) : n.isNamedElement := by
  have hfragment : (n.kind == "jsx_fragment") = false := by
    by_contra hk
    have hk : n.kind = "jsx_fragment" := by simpa using hk
    simp [Conversion.namedTag?, tagNode?, isSelfClosing, hk] at h
  rw [isNamedElement, h, Option.isSome_some, Bool.and_true]
  simpa [isMarkup, hfragment] using hm

theorem not_isNamedElement_of_nameless (h : Conversion.namedTag? n = none) :
    ¬n.isNamedElement := by
  simp [isNamedElement, h]

theorem walkedNodes_of_not_isMarkup (hm : n.isMarkup = false) :
    n.walkedNodes = n.keptParts.flatMap walkedNodes := by
  have hnot : ¬n.isNamedElement := fun h => by
    rw [isMarkup_of_isNamedElement h] at hm
    cases hm
  rw [walkedNodes_eq, List.filter_cons_of_neg hnot, List.filter_nil, List.nil_append]

theorem elements_of_expressionIn (hx : n.isExpression) (ih : ∀ m ∈ n.outermostMarkup, Visits bytes m)
    {e : Expression} (h : n.expressionIn bytes = .ok e) :
    List.Forall₂ (StandsFor bytes) n.walkedNodes e.elements := by
  have hm : n.isMarkup = false := by
    by_contra hm
    rw [isExpression_of_isMarkup (by simpa using hm)] at hx
    cases hx
  rw [expressionIn_eq] at h
  obtain ⟨source, -, h⟩ := Outcome.bind_eq_ok_iff.1 h
  obtain ⟨children, hchildren, h⟩ := Outcome.bind_eq_ok_iff.1 h
  cases h
  rw [Expression.elements_eq, elementsOf_eq_flatMap, walkedNodes_of_not_isMarkup hm, keptParts,
    if_neg (by simp [hm]), if_pos hx]
  apply Outcome.forall₂_flatMap_of_mapM hchildren
  intro m hm
  exact (ih m hm).node (isContainer_of_mem_outermostMarkup hm).2

theorem elements_of_valueIn (ih : Visits bytes n) {value : AttributeValue}
    (h : n.valueIn bytes = .ok value) :
    List.Forall₂ (StandsFor bytes) (if n.isContainer then n.walkedNodes else [])
      (elementsOf value.children) := by
  rw [valueIn] at h
  by_cases hcontainer : n.isContainer
  · have hk : (n.kind == "string") = false := by
      by_contra hk
      have hk : n.kind = "string" := by simpa using hk
      simp [isContainer, isMarkup, isExpression, hk] at hcontainer
    rw [if_pos hcontainer]
    rw [if_neg (by simp [hk])] at h
    by_cases hx : n.isExpression
    · rw [if_pos hx] at h
      obtain ⟨e, he, rfl⟩ := Outcome.map_eq_ok_iff.1 h
      have hwalk := ih.expression hx e he
      rw [Expression.elements_eq] at hwalk
      exact hwalk
    · have hm : n.isMarkup := by simpa [isContainer, hx] using hcontainer
      rw [if_neg hx, if_pos hm] at h
      obtain ⟨source, -, h⟩ := Outcome.bind_eq_ok_iff.1 h
      obtain ⟨m, hm, h⟩ := Outcome.bind_eq_ok_iff.1 h
      cases h
      have hwalk := ih.node hcontainer m hm
      rw [AttributeValue.children, elementsOf, elementsOf, List.append_nil]
      exact hwalk
  · -- A value of another kind is a literal, or an expression that holds no markup.
    obtain ⟨hm, hx⟩ : n.isMarkup = false ∧ n.isExpression = false := by
      simpa [isContainer] using hcontainer
    have hnone : elementsOf value.children = [] := by
      split at h
      · obtain ⟨text, -, h⟩ := Outcome.bind_eq_ok_iff.1 h
        cases h
        rfl
      · rw [if_neg (by simp [hx]), if_neg (by simp [hm])] at h
        obtain ⟨text, -, h⟩ := Outcome.bind_eq_ok_iff.1 h
        cases h
        rfl
    rw [if_neg hcontainer, hnone]
    exact .nil

theorem elements_of_attributeIn (hk : n.kind = "jsx_attribute")
    (ih : ∀ c ∈ n.namedChildren, Visits bytes c) {a : Attribute}
    (h : n.attributeIn bytes = .ok a) :
    List.Forall₂ (StandsFor bytes) n.walkedNodes (elementsOf a.value.children) := by
  have hm : n.isMarkup = false := by simp [isMarkup, hk]
  have hx : n.isExpression = false := by simp [isExpression, hk]
  rw [walkedNodes_of_not_isMarkup hm, keptParts, if_neg (by simp [hm]), if_neg (by simp [hx])]
  cases hp : n.attributeParts with
  | error e =>
    rw [attributeIn] at h
    split at h <;> rename_i h' <;> rw [hp] at h' <;> cases h'
    cases h
  | ok parts =>
    obtain ⟨name, value?⟩ := parts
    rw [valueParts_eq hp]
    rw [attributeIn_eq hp] at h
    obtain ⟨text, -, h⟩ := Outcome.bind_eq_ok_iff.1 h
    cases value? with
    | none =>
      cases h
      exact .nil
    | some v =>
      obtain ⟨value, hvalue, h⟩ := Outcome.bind_eq_ok_iff.1 h
      cases h
      have hwalk := elements_of_valueIn (ih v ((mem_of_attributeParts hp).2 v rfl)) hvalue
      cases hc : v.isContainer <;> simpa [Option.filter, hc] using hwalk

theorem contentParts_eq_filter (n : SourceNode) :
    n.contentParts = n.contentNodes.filter isContainer := by
  unfold contentParts contentNodes
  split <;> rfl

theorem flatMap_filter_eq (p : SourceNode → Bool) (f : SourceNode → List α)
    (ns : List SourceNode) :
    (ns.filter p).flatMap f = ns.flatMap fun n => if p n then f n else [] := by
  induction ns with
  | nil => rfl
  | cons n ns ih => by_cases hp : p n <;> simp [hp, ih]

theorem elements_of_childIn (ih : Visits bytes n) {child : Option Node}
    (h : n.childIn bytes = .ok child) :
    List.Forall₂ (StandsFor bytes) (if n.isContainer then n.walkedNodes else [])
      (elementsOf child.toList) := by
  rw [childIn] at h
  by_cases hcontainer : n.isContainer
  · have htext : (n.kind == "jsx_text") = false ∧
        (n.kind == "html_character_reference") = false := by
      constructor <;> by_contra hk <;> simp only [Bool.not_eq_false, beq_iff_eq] at hk <;>
        simp [isContainer, isMarkup, isExpression, hk] at hcontainer
    rw [if_neg (by simp [htext.1]), if_neg (by simp [htext.2]), if_pos hcontainer] at h
    obtain ⟨m, hm, rfl⟩ := Outcome.map_eq_ok_iff.1 h
    rw [if_pos hcontainer, Option.toList_some, elementsOf, elementsOf, List.append_nil]
    exact ih.node hcontainer m hm
  · -- What is no container becomes a text or nothing at all.
    rw [if_neg hcontainer] at h ⊢
    have hnone : elementsOf child.toList = [] := by
      split at h
      · obtain ⟨text, -, h⟩ := Outcome.bind_eq_ok_iff.1 h
        cases h
        rfl
      split at h
      · obtain ⟨text, -, h⟩ := Outcome.bind_eq_ok_iff.1 h
        cases h
        rfl
      · cases h
        rfl
    rw [hnone]
    exact .nil

theorem elements_of_contentNodes (ih : ∀ c ∈ n.contentNodes, Visits bytes c)
    {children : List (Option Node)} (h : n.contentNodes.mapM (childIn bytes) = .ok children) :
    List.Forall₂ (StandsFor bytes) (n.contentParts.flatMap walkedNodes)
      (elementsOf (children.filterMap fun c => c)) := by
  rw [contentParts_eq_filter, flatMap_filter_eq, elementsOf_eq_flatMap,
    List.filterMap_eq_flatMap_toList, List.flatMap_assoc]
  apply Outcome.forall₂_flatMap_of_mapM h
  intro c hc child hchild
  rw [← elementsOf_eq_flatMap]
  exact elements_of_childIn (ih c hc) hchild

theorem elements_of_attributeNodes (ih : ∀ p ∈ n.tagParts, Visits bytes p)
    {attributes : List Attribute} (h : n.attributeNodes.mapM (attributeIn bytes) = .ok attributes) :
    List.Forall₂ (StandsFor bytes) (n.attributeNodes.flatMap walkedNodes)
      (elementsOf (attributes.flatMap (·.value.children))) := by
  rw [elementsOf_eq_flatMap, List.flatMap_assoc]
  apply Outcome.forall₂_flatMap_of_mapM h
  intro a ha value hvalue
  obtain ⟨hmem, hk⟩ := mem_tagParts_of_mem_attributeNodes ha
  rw [← elementsOf_eq_flatMap]
  exact (ih a hmem).attr hk value hvalue

theorem elements_of_spreadNodes (ih : ∀ p ∈ n.tagParts, Visits bytes p)
    {spreads : List Expression} (h : n.spreadNodes.mapM (expressionIn bytes) = .ok spreads) :
    List.Forall₂ (StandsFor bytes) (n.spreadNodes.flatMap walkedNodes)
      (elementsOf (spreads.flatMap Expression.children)) := by
  rw [elementsOf_eq_flatMap, List.flatMap_assoc]
  apply Outcome.forall₂_flatMap_of_mapM h
  intro s hs e he
  obtain ⟨hmem, hx⟩ := List.mem_filter.1 hs
  rw [← elementsOf_eq_flatMap, ← Expression.elements_eq]
  exact (ih s hmem).expression hx e he

theorem elements_of_elementIn (hm : n.isMarkup) (ihTag : ∀ p ∈ n.tagParts, Visits bytes p)
    (ihContent : ∀ c ∈ n.contentNodes, Visits bytes c) {m : Node} (h : n.elementIn bytes = .ok m) :
    List.Forall₂ (StandsFor bytes) n.walkedNodes m.elements := by
  have hconverted := h
  rw [elementIn_eq] at h
  obtain ⟨attributes, hattributes, h⟩ := Outcome.bind_eq_ok_iff.1 h
  obtain ⟨spreads, hspreads, h⟩ := Outcome.bind_eq_ok_iff.1 h
  obtain ⟨children, hchildren, h⟩ := Outcome.bind_eq_ok_iff.1 h
  have hcontent := elements_of_contentNodes ihContent hchildren
  rw [walkedNodes_eq, keptParts, if_pos hm]
  rcases assembled_eq_ok h with
    ⟨hnone, rfl⟩ | ⟨t, name, e, hsome, rfl, htag, hline, hcolumn, hnested⟩
  · rw [List.filter_cons_of_neg (not_isNamedElement_of_nameless hnone), if_neg (by simp [hnone])]
    exact hcontent
  · have hself : StandsFor bytes n e := ⟨hconverted, ⟨t, name, hsome, htag⟩, hline, hcolumn⟩
    have hattributeElements := elements_of_attributeNodes ihTag hattributes
    have hspreadElements := elements_of_spreadNodes ihTag hspreads
    rw [List.filter_cons_of_pos (isNamedElement_of_namedTag? hm hsome), if_pos (by simp [hsome]),
      Node.elements, e.elements_eq, hnested, elementsOf_append, elementsOf_append, walkParts,
      List.flatMap_append, List.flatMap_append, List.append_assoc]
    exact .cons hself (List.rel_append hattributeElements
      (List.rel_append hspreadElements hcontent))

end

theorem visits (bytes : Array UInt8) (n : SourceNode) : Visits bytes n := by
  induction n using induction_on_weight with
  | step n ih =>
    have hexpression : n.isExpression → ∀ e, n.expressionIn bytes = .ok e →
        List.Forall₂ (StandsFor bytes) n.walkedNodes e.elements := by
      intro hx e he
      exact elements_of_expressionIn hx (fun m hm => ih m (weight_lt_of_mem_outermostMarkup hm)) he
    refine ⟨?_, hexpression, ?_⟩
    · intro hcontainer m hm
      rw [nodeIn] at hm
      split at hm
      · rename_i hx
        obtain ⟨e, he, rfl⟩ := Outcome.map_eq_ok_iff.1 hm
        exact hexpression hx e he
      · rename_i hx
        have hmarkup : n.isMarkup := by simpa [isContainer, hx] using hcontainer
        exact elements_of_elementIn hmarkup (fun p hp => ih p (weight_lt_of_mem_tagParts hp))
          (fun c hc => ih c (weight_lt_of_mem_contentNodes hc)) hm
    · intro hk a ha
      exact elements_of_attributeIn hk (fun c hc => ih c (weight_lt_of_mem_namedChildren hc)) ha

end MarkupAudit.SourceNode
