import Mathlib.Data.List.Perm.Basic
import MarkupAudit.Proofs.Source.Shape

/-! The elements of a source tree in two orders: as they are written, and as a walk over the markup
comes to them, which puts the attributes of a tag before its spread attributes. -/
namespace MarkupAudit.SourceNode

def isNamedElement (n : SourceNode) : Bool :=
  (n.kind == "jsx_element" || n.kind == "jsx_self_closing_element") &&
    (Conversion.namedTag? n).isSome

/-- The parts of markup in the order in which a walk comes to them. -/
def walkParts (n : SourceNode) : List SourceNode :=
  n.attributeNodes ++ n.spreadNodes ++ n.contentParts

theorem mem_walkParts_iff {p n : SourceNode} :
    p ∈ n.walkParts ↔ p ∈ n.attributeNodes ∨ p ∈ n.spreadNodes ∨ p ∈ n.contentParts := by
  rw [walkParts, List.append_assoc, List.mem_append, List.mem_append]

theorem weight_lt_of_mem_walkParts {p n : SourceNode} (h : p ∈ n.walkParts) :
    p.weight < n.weight := by
  rcases mem_walkParts_iff.1 h with h | h | h
  · exact weight_lt_of_mem_tagParts (List.mem_of_mem_filter h)
  · exact weight_lt_of_mem_tagParts (List.mem_of_mem_filter h)
  · exact weight_lt_of_mem_contentNodes (mem_contentNodes_of_mem_contentParts h).1

theorem mem_nodes_of_mem_walkParts {p n : SourceNode} (h : p ∈ n.walkParts) : p ∈ n.nodes := by
  rcases mem_walkParts_iff.1 h with h | h | h
  · exact mem_nodes_of_mem_tagParts (List.mem_of_mem_filter h)
  · exact mem_nodes_of_mem_tagParts (List.mem_of_mem_filter h)
  · exact mem_nodes_of_mem_contentNodes (mem_contentNodes_of_mem_contentParts h).1

theorem attributeNodes_append_spreadNodes_perm (n : SourceNode) :
    (n.attributeNodes ++ n.spreadNodes).Perm n.tagParts := by
  have hspreads : n.spreadNodes = n.tagParts.filter fun p => !(p.kind == "jsx_attribute") := by
    apply List.filter_congr
    intro p hp
    rcases mem_attributeNodes_or_mem_spreadNodes hp with ha | ⟨-, hx⟩
    · have hk := (mem_tagParts_of_mem_attributeNodes ha).2
      simp [isExpression, hk]
    · have hk : p.kind = "jsx_expression" := by simpa [isExpression] using hx
      simp [isExpression, hk]
  rw [hspreads]
  exact List.filter_append_perm _ _

/-- The elements at and below a node in the order of a walk: an element comes before those in its
attributes, then come those in its spread attributes, then those between its tags. -/
def elementNodes (n : SourceNode) : List SourceNode :=
  if n.isMarkup then
    [n].filter isNamedElement ++ n.walkParts.attach.flatMap fun ⟨p, _⟩ => elementNodes p
  else n.children.attach.flatMap fun ⟨c, _⟩ => elementNodes c
termination_by n.weight
decreasing_by
  · exact weight_lt_of_mem_walkParts ‹_›
  · exact weight_lt_of_mem_children ‹_›

theorem flatMap_attach (f : SourceNode → List α) (ns : List SourceNode) :
    (ns.attach.flatMap fun n => f n.1) = ns.flatMap f := by
  rw [List.flatMap_subtype (g := f) fun _ _ => rfl, List.unattach_attach]

theorem elementNodes_of_isMarkup {n : SourceNode} (h : n.isMarkup) :
    n.elementNodes = [n].filter isNamedElement ++ n.walkParts.flatMap elementNodes := by
  rw [elementNodes, if_pos h, ← flatMap_attach]

theorem collectsMarkup_elementNodes : CollectsMarkup elementNodes := by
  intro n hn
  rw [elementNodes, if_neg (by simp [hn]), ← flatMap_attach]

def namedElements (n : SourceNode) : List SourceNode :=
  n.nodes.filter isNamedElement

theorem namedElements_eq (n : SourceNode) :
    n.namedElements = [n].filter isNamedElement ++ n.children.flatMap namedElements := by
  rw [namedElements, nodes_eq, ← List.singleton_append, List.filter_append, List.filter_flatMap]
  rfl

theorem isMarkup_of_isNamedElement {n : SourceNode} (h : n.isNamedElement) : n.isMarkup := by
  rcases Bool.or_eq_true_iff.1 (Bool.and_eq_true_iff.1 h).1 with h | h <;> simp [isMarkup, h]

theorem collectsMarkup_namedElements : CollectsMarkup namedElements := by
  intro n hn
  have hnot : n.isNamedElement = false := by
    by_contra h
    rw [isMarkup_of_isNamedElement (by simpa using h)] at hn
    cases hn
  rw [namedElements_eq, List.filter_cons_of_neg (by simp [hnot]), List.filter_nil, List.nil_append]

section
variable {tree n : SourceNode} (h : tree.TsxShape) (distinct : tree.DistinctIds)
include h distinct

theorem elementNodes_perm (hn : n ∈ tree.nodes) : n.elementNodes.Perm n.namedElements := by
  induction n using induction_on_weight with
  | step n ih =>
    cases hm : n.isMarkup with
    | false =>
      rw [collectsMarkup_elementNodes n hm, collectsMarkup_namedElements n hm]
      apply List.Perm.flatMap_left
      intro c hc
      exact ih c (weight_lt_of_mem_children hc) (mem_nodes_trans (mem_nodes_of_mem_children hc) hn)
    | true =>
      rw [elementNodes_of_isMarkup hm, namedElements_eq,
        h.flatMap_children distinct hn hm collectsMarkup_namedElements, ← List.flatMap_append]
      apply List.Perm.append_left
      -- Attributes and spread attributes change places; the content is last in both orders.
      apply List.Perm.flatMap (n.attributeNodes_append_spreadNodes_perm.append_right _)
      intro p hp
      exact ih p (weight_lt_of_mem_walkParts hp)
        (mem_nodes_trans (mem_nodes_of_mem_walkParts hp) hn)

/-- Where all attributes are written before all spread attributes, walk order is source order. -/
theorem elementNodes_eq (hfirst : ∀ m ∈ tree.nodes, m.tagParts = m.attributeNodes ++ m.spreadNodes)
    (hn : n ∈ tree.nodes) : n.elementNodes = n.namedElements := by
  induction n using induction_on_weight with
  | step n ih =>
    cases hm : n.isMarkup with
    | false =>
      rw [collectsMarkup_elementNodes n hm, collectsMarkup_namedElements n hm]
      apply List.flatMap_congr
      intro c hc
      exact ih c (weight_lt_of_mem_children hc) (mem_nodes_trans (mem_nodes_of_mem_children hc) hn)
    | true =>
      rw [elementNodes_of_isMarkup hm, namedElements_eq,
        h.flatMap_children distinct hn hm collectsMarkup_namedElements, ← List.flatMap_append,
        hfirst n hn]
      apply congrArg ([n].filter isNamedElement ++ ·)
      apply List.flatMap_congr
      intro p hp
      exact ih p (weight_lt_of_mem_walkParts hp)
        (mem_nodes_trans (mem_nodes_of_mem_walkParts hp) hn)

end

end MarkupAudit.SourceNode
