import MarkupAudit.Proofs.Outcome
import MarkupAudit.Proofs.Source.Parts

/-! Conversion by recursion: every node is converted from the converted forms of its parts, in
source order. The parts on a tag without a name are converted too, although a fragment keeps none
of them. Conversion fails only where a node spans bytes that are not a text. -/
namespace MarkupAudit.SourceNode

/-- An element of the given parts, or a fragment when its tag has no name. -/
def assembled (bytes : Array UInt8) (n : SourceNode) (attributes : List Attribute)
    (spreads : List Expression) (children : List Node) : Except ConversionFailure Node :=
  match Conversion.namedTag? n with
  | none => return .fragment children
  | some (_, name) => do
    let position := Text.positionAt bytes n.start
    return .element
      { tag := ← name.textIn bytes
        attributes := attributes
        children := children
        line := some position.line
        column := some position.column
        spreads := spreads }

mutual

def nodeIn (bytes : Array UInt8) (n : SourceNode) : Except ConversionFailure Node :=
  if n.isExpression then (expressionIn bytes n).map .expression else elementIn bytes n
termination_by (n.weight, 1)
decreasing_by
  · exact Prod.Lex.right _ (by decide)
  · exact Prod.Lex.right _ (by decide)

def expressionIn (bytes : Array UInt8) (n : SourceNode) : Except ConversionFailure Expression := do
  let source ← n.textIn bytes
  let children ← n.outermostMarkup.attach.mapM fun ⟨m, _⟩ => nodeIn bytes m
  return ⟨source, children⟩
termination_by (n.weight, 0)
decreasing_by
  rename_i h
  exact Prod.Lex.left _ _ (weight_lt_of_mem_outermostMarkup h)

/-- The value of an attribute; markup that stands there without braces is an expression. -/
def valueIn (bytes : Array UInt8) (n : SourceNode) : Except ConversionFailure AttributeValue :=
  if n.kind == "string" then do
    return .literal (Text.Entity.unescape (Conversion.unquoted (← n.textIn bytes)))
  else if n.isExpression then
    (expressionIn bytes n).map .expression
  else if n.isMarkup then do
    let source ← n.textIn bytes
    return .expression ⟨source, [← nodeIn bytes n]⟩
  else do
    return .expression ⟨← n.textIn bytes, []⟩
termination_by (n.weight, 2)
decreasing_by
  · exact Prod.Lex.right _ (by decide)
  · exact Prod.Lex.right _ (by decide)

def attributeIn (bytes : Array UInt8) (n : SourceNode) : Except ConversionFailure Attribute :=
  match _ : n.attributeParts with
  | .error e => .error e
  | .ok (nameNode, none) => do
    return ⟨← nameNode.textIn bytes, .bare⟩
  | .ok (nameNode, some v) => do
    let name ← nameNode.textIn bytes
    return ⟨name, ← valueIn bytes v⟩
termination_by (n.weight, 0)
decreasing_by
  exact Prod.Lex.left _ _ (weight_lt_of_mem_namedChildren ((mem_of_attributeParts ‹_›).2 v rfl))

def childIn (bytes : Array UInt8) (n : SourceNode) : Except ConversionFailure (Option Node) :=
  if n.kind == "jsx_text" then do
    return some (.text (← n.textIn bytes))
  else if n.kind == "html_character_reference" then do
    return some (.text (Text.Entity.unescape (← n.textIn bytes)))
  else if n.isContainer then
    (nodeIn bytes n).map some
  else
    return none
termination_by (n.weight, 2)
decreasing_by
  exact Prod.Lex.right _ (by decide)

/-- All parts of an element are converted, also those that a fragment does without. -/
def elementIn (bytes : Array UInt8) (n : SourceNode) : Except ConversionFailure Node := do
  let attributes ← n.attributeNodes.attach.mapM fun ⟨a, _⟩ => attributeIn bytes a
  let spreads ← n.spreadNodes.attach.mapM fun ⟨s, _⟩ => expressionIn bytes s
  let children ← n.contentNodes.attach.mapM fun ⟨c, _⟩ => childIn bytes c
  n.assembled bytes attributes spreads (children.filterMap fun c => c)
termination_by (n.weight, 0)
decreasing_by
  · rename_i h
    exact Prod.Lex.left _ _ (weight_lt_of_mem_tagParts (List.mem_of_mem_filter h))
  · rename_i h
    exact Prod.Lex.left _ _ (weight_lt_of_mem_tagParts (List.mem_of_mem_filter h))
  · rename_i h
    exact Prod.Lex.left _ _ (weight_lt_of_mem_contentNodes h)

end

theorem expressionIn_eq (bytes : Array UInt8) (n : SourceNode) :
    n.expressionIn bytes = (do
      let source ← n.textIn bytes
      let children ← n.outermostMarkup.mapM (nodeIn bytes)
      return ⟨source, children⟩) := by
  rw [expressionIn, ← Outcome.mapM_attach (nodeIn bytes)]

theorem attributeIn_eq {bytes : Array UInt8} {n name : SourceNode} {value? : Option SourceNode}
    (h : n.attributeParts = .ok (name, value?)) :
    n.attributeIn bytes = (do
      let text ← name.textIn bytes
      match value? with
      | none => return ⟨text, .bare⟩
      | some v => return ⟨text, ← v.valueIn bytes⟩) := by
  rw [attributeIn]
  split <;> rename_i h' <;> rw [h] at h' <;> cases h' <;> rfl

theorem elementIn_eq (bytes : Array UInt8) (n : SourceNode) :
    n.elementIn bytes = (do
      let attributes ← n.attributeNodes.mapM (attributeIn bytes)
      let spreads ← n.spreadNodes.mapM (expressionIn bytes)
      let children ← n.contentNodes.mapM (childIn bytes)
      n.assembled bytes attributes spreads (children.filterMap fun c => c)) := by
  rw [elementIn, ← Outcome.mapM_attach (attributeIn bytes),
    ← Outcome.mapM_attach (expressionIn bytes), ← Outcome.mapM_attach (childIn bytes)]

/-- Whether every attribute of a tree has something to be named by. -/
def AttributesNamed (tree : SourceNode) : Prop :=
  ∀ a ∈ tree.nodes, a.kind = "jsx_attribute" → ∃ c ∈ a.namedChildren, c.kind ≠ "comment"

theorem AttributesNamed.below {m n : SourceNode} (h : n.AttributesNamed) (hm : m ∈ n.nodes) :
    m.AttributesNamed :=
  fun a ha => h a (mem_nodes_trans ha hm)

theorem exists_attributeParts {a : SourceNode} (h : ∃ c ∈ a.namedChildren, c.kind ≠ "comment") :
    ∃ parts, a.attributeParts = .ok parts := by
  obtain ⟨c, hc, hk⟩ := h
  have hmem : c ∈ a.namedChildren.filter (·.kind != "comment") :=
    List.mem_filter.2 ⟨hc, by simpa using hk⟩
  unfold attributeParts
  split
  · rename_i hnil
    rw [hnil] at hmem
    cases hmem
  · exact ⟨_, rfl⟩

theorem exists_dependencies {n : SourceNode} (named : n.AttributesNamed) :
    ∃ deps, n.dependencies = .ok deps := by
  unfold dependencies
  split
  · exact ⟨_, rfl⟩
  · split
    · rename_i hk
      obtain ⟨parts, hp⟩ := exists_attributeParts (named n n.mem_nodes_self (by simpa using hk))
      rw [hp]
      exact ⟨_, rfl⟩
    · exact ⟨_, rfl⟩

/-- Whether a failure is that of reading the text of a node at or below the given one. -/
def FaultBelow (bytes : Array UInt8) (n : SourceNode) (e : ConversionFailure) : Prop :=
  ∃ m ∈ n.nodes, m.textIn bytes = .error e

theorem FaultBelow.of_text {bytes : Array UInt8} {m n : SourceNode} {e : ConversionFailure}
    (hm : m ∈ n.nodes) (h : m.textIn bytes = .error e) : FaultBelow bytes n e :=
  ⟨m, hm, h⟩

theorem FaultBelow.trans {bytes : Array UInt8} {m n : SourceNode} {e : ConversionFailure}
    (h : FaultBelow bytes m e) (hm : m ∈ n.nodes) : FaultBelow bytes n e := by
  obtain ⟨k, hk, he⟩ := h
  exact ⟨k, mem_nodes_trans hk hm, he⟩

theorem FaultBelow.eq_undecodable {bytes : Array UInt8} {n : SourceNode} {e : ConversionFailure}
    (h : FaultBelow bytes n e) : ∃ fault, e = .undecodable fault := by
  obtain ⟨m, -, he⟩ := h
  unfold textIn at he
  split at he
  · cases he
  · rename_i fault _
    exact ⟨fault, (Except.error.inj he).symm⟩

/-- Whether conversion of a node, as whatever it may be converted, fails for the sake of a text
only. -/
structure FailsByText (bytes : Array UInt8) (n : SourceNode) : Prop where
  node : ∀ e, n.nodeIn bytes = .error e → FaultBelow bytes n e
  expression : ∀ e, n.expressionIn bytes = .error e → FaultBelow bytes n e
  attr : n.kind = "jsx_attribute" → ∀ e, n.attributeIn bytes = .error e → FaultBelow bytes n e

section
variable {bytes : Array UInt8} {n : SourceNode} {e : ConversionFailure}

theorem faultBelow_of_expressionIn (ih : ∀ m ∈ n.outermostMarkup, FailsByText bytes m)
    (h : n.expressionIn bytes = .error e) : FaultBelow bytes n e := by
  rw [expressionIn_eq] at h
  rcases Outcome.bind_eq_error_iff.1 h with h | ⟨source, -, h⟩
  · exact .of_text n.mem_nodes_self h
  obtain ⟨m, hm, h⟩ := Outcome.exists_error_of_mapM (Outcome.bind_pure_eq_error_iff.1 h)
  exact ((ih m hm).node e h).trans (of_mem_outermostMarkup hm).2

theorem faultBelow_of_valueIn (ih : FailsByText bytes n) (h : n.valueIn bytes = .error e) :
    FaultBelow bytes n e := by
  rw [valueIn] at h
  split at h
  · exact .of_text n.mem_nodes_self (Outcome.bind_pure_eq_error_iff.1 h)
  split at h
  · exact ih.expression e (Outcome.map_eq_error_iff.1 h)
  split at h
  · rcases Outcome.bind_eq_error_iff.1 h with h | ⟨source, -, h⟩
    · exact .of_text n.mem_nodes_self h
    exact ih.node e (Outcome.bind_pure_eq_error_iff.1 h)
  · exact .of_text n.mem_nodes_self (Outcome.bind_pure_eq_error_iff.1 h)

theorem faultBelow_of_attributeIn (hn : ∃ c ∈ n.namedChildren, c.kind ≠ "comment")
    (ih : ∀ c ∈ n.namedChildren, FailsByText bytes c)
    (h : n.attributeIn bytes = .error e) : FaultBelow bytes n e := by
  obtain ⟨⟨name, value?⟩, hp⟩ := exists_attributeParts hn
  obtain ⟨hname, hvalue⟩ := mem_of_attributeParts hp
  rw [attributeIn_eq hp] at h
  rcases Outcome.bind_eq_error_iff.1 h with h | ⟨text, -, h⟩
  · exact .of_text (mem_nodes_of_mem_namedChildren hname) h
  cases value? with
  | none => cases h
  | some v =>
    have hv := hvalue v rfl
    exact (faultBelow_of_valueIn (ih v hv) (Outcome.bind_pure_eq_error_iff.1 h)).trans
      (mem_nodes_of_mem_namedChildren hv)

theorem faultBelow_of_childIn (ih : FailsByText bytes n) (h : n.childIn bytes = .error e) :
    FaultBelow bytes n e := by
  rw [childIn] at h
  split at h
  · exact .of_text n.mem_nodes_self (Outcome.bind_pure_eq_error_iff.1 h)
  split at h
  · exact .of_text n.mem_nodes_self (Outcome.bind_pure_eq_error_iff.1 h)
  split at h
  · exact ih.node e (Outcome.map_eq_error_iff.1 h)
  · cases h

theorem faultBelow_of_assembled {attributes : List Attribute} {spreads : List Expression}
    {children : List Node} (h : n.assembled bytes attributes spreads children = .error e) :
    FaultBelow bytes n e := by
  unfold assembled at h
  split at h
  · cases h
  · rename_i tag name ht
    exact .of_text (mem_nodes_of_namedTag? ht) (Outcome.bind_pure_eq_error_iff.1 h)

theorem faultBelow_of_elementIn (ihTag : ∀ p ∈ n.tagParts, FailsByText bytes p)
    (ihContent : ∀ c ∈ n.contentNodes, FailsByText bytes c)
    (h : n.elementIn bytes = .error e) : FaultBelow bytes n e := by
  rw [elementIn_eq] at h
  rcases Outcome.bind_eq_error_iff.1 h with h | ⟨attributes, -, h⟩
  · obtain ⟨a, ha, h⟩ := Outcome.exists_error_of_mapM h
    obtain ⟨hmem, hk⟩ := List.mem_filter.1 ha
    exact ((ihTag a hmem).attr (by simpa using hk) e h).trans (mem_nodes_of_mem_tagParts hmem)
  rcases Outcome.bind_eq_error_iff.1 h with h | ⟨spreads, -, h⟩
  · obtain ⟨s, hs, h⟩ := Outcome.exists_error_of_mapM h
    have hmem := List.mem_of_mem_filter hs
    exact ((ihTag s hmem).expression e h).trans (mem_nodes_of_mem_tagParts hmem)
  rcases Outcome.bind_eq_error_iff.1 h with h | ⟨children, -, h⟩
  · obtain ⟨c, hc, h⟩ := Outcome.exists_error_of_mapM h
    exact (faultBelow_of_childIn (ihContent c hc) h).trans (mem_nodes_of_mem_contentNodes hc)
  · exact faultBelow_of_assembled h

end

theorem failsByText (bytes : Array UInt8) {n : SourceNode} (named : n.AttributesNamed) :
    FailsByText bytes n := by
  induction n using induction_on_weight with
  | step n ih =>
    have hexpression : ∀ e, n.expressionIn bytes = .error e → FaultBelow bytes n e := by
      intro e h
      apply faultBelow_of_expressionIn _ h
      intro m hm
      exact ih m (weight_lt_of_mem_outermostMarkup hm) (named.below (of_mem_outermostMarkup hm).2)
    refine ⟨?_, hexpression, ?_⟩
    · intro e h
      rw [nodeIn] at h
      split at h
      · exact hexpression e (Outcome.map_eq_error_iff.1 h)
      · apply faultBelow_of_elementIn _ _ h
        · intro p hp
          exact ih p (weight_lt_of_mem_tagParts hp) (named.below (mem_nodes_of_mem_tagParts hp))
        · intro c hc
          exact ih c (weight_lt_of_mem_contentNodes hc)
            (named.below (mem_nodes_of_mem_contentNodes hc))
    · intro hk e h
      apply faultBelow_of_attributeIn (named n n.mem_nodes_self hk) _ h
      intro c hc
      exact ih c (weight_lt_of_mem_namedChildren hc)
        (named.below (mem_nodes_of_mem_namedChildren hc))

end MarkupAudit.SourceNode
