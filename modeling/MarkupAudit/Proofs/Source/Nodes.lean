import Mathlib.Data.List.Nodup
import Mathlib.Data.List.Pairwise
import MarkupAudit.Source.Tree

/-! The nodes of a source tree, listed in source order, and trees in which no two nodes share an
identity. In such a tree a node lies below one child of its parent only. -/
namespace MarkupAudit.SourceNode

mutual

def nodes : SourceNode → List SourceNode
  | ⟨id, kind, start, stop, named, field, missing, hasError, children⟩ =>
    ⟨id, kind, start, stop, named, field, missing, hasError, children⟩ :: nodesOf children

def nodesOf : List SourceNode → List SourceNode
  | [] => []
  | n :: rest => n.nodes ++ nodesOf rest

end

theorem nodesOf_eq_flatMap (ns : List SourceNode) : nodesOf ns = ns.flatMap nodes := by
  induction ns with
  | nil => rfl
  | cons n ns ih => rw [nodesOf, List.flatMap_cons, ih]

theorem nodes_eq (n : SourceNode) : n.nodes = n :: n.children.flatMap nodes := by
  cases n
  rw [nodes, nodesOf_eq_flatMap]

theorem mem_nodes_iff {m n : SourceNode} : m ∈ n.nodes ↔ m = n ∨ ∃ c ∈ n.children, m ∈ c.nodes := by
  rw [nodes_eq, List.mem_cons, List.mem_flatMap]

@[simp] theorem mem_nodes_self (n : SourceNode) : n ∈ n.nodes :=
  mem_nodes_iff.2 (.inl rfl)

theorem mem_nodes_of_mem_children {c n : SourceNode} (h : c ∈ n.children) : c ∈ n.nodes :=
  mem_nodes_iff.2 (.inr ⟨c, h, c.mem_nodes_self⟩)

theorem weight_lt_of_mem_children {c n : SourceNode} (h : c ∈ n.children) :
    c.weight < n.weight := by
  have := weight_le_weightOf h
  have := n.weight_eq
  omega

theorem induction_on_weight {motive : SourceNode → Prop}
    (step : ∀ n, (∀ m, m.weight < n.weight → motive m) → motive n) (n : SourceNode) : motive n :=
  WellFounded.induction (measure weight).wf n step

theorem mem_nodes_trans {a b c : SourceNode} (hab : a ∈ b.nodes) (hbc : b ∈ c.nodes) :
    a ∈ c.nodes := by
  induction c using induction_on_weight with
  | step c ih =>
    rcases mem_nodes_iff.1 hbc with rfl | ⟨d, hd, hbd⟩
    · exact hab
    · exact mem_nodes_iff.2 (.inr ⟨d, hd, ih d (weight_lt_of_mem_children hd) hbd⟩)

/-- Whether the nodes of a tree can be told apart by their identities. -/
def DistinctIds (tree : SourceNode) : Prop :=
  (tree.nodes.map SourceNode.id).Nodup

theorem DistinctIds.eq_of_id_eq {tree m n : SourceNode} (h : tree.DistinctIds)
    (hm : m ∈ tree.nodes) (hn : n ∈ tree.nodes) (hid : m.id = n.id) : m = n :=
  List.inj_on_of_nodup_map h hm hn hid

theorem nodes_sublist {m n : SourceNode} (h : m ∈ n.nodes) : m.nodes.Sublist n.nodes := by
  induction n using induction_on_weight with
  | step n ih =>
    rcases mem_nodes_iff.1 h with rfl | ⟨c, hc, hm⟩
    · exact List.Sublist.refl _
    · rw [n.nodes_eq]
      apply List.Sublist.cons
      exact (ih c (weight_lt_of_mem_children hc) hm).trans
        (List.sublist_flatten_of_mem (List.mem_map_of_mem hc))

theorem DistinctIds.below {m n : SourceNode} (h : n.DistinctIds) (hm : m ∈ n.nodes) :
    m.DistinctIds :=
  List.Nodup.sublist ((nodes_sublist hm).map SourceNode.id) h

theorem DistinctIds.mem_nodes_of_mem_ids {tree m n : SourceNode} (h : tree.DistinctIds)
    (hm : m ∈ tree.nodes) (hn : n ∈ tree.nodes) (hid : m.id ∈ n.nodes.map SourceNode.id) :
    m ∈ n.nodes := by
  obtain ⟨k, hk, hid⟩ := List.mem_map.1 hid
  rw [← h.eq_of_id_eq (mem_nodes_trans hk hn) hm hid]
  exact hk

theorem DistinctIds.nodup {n : SourceNode} (h : n.DistinctIds) : n.nodes.Nodup :=
  List.Nodup.of_map _ h

theorem DistinctIds.disjoint_children {n : SourceNode} (h : n.DistinctIds) :
    n.children.Pairwise fun c d => List.Disjoint c.nodes d.nodes := by
  have hnodup := h.nodup
  rw [nodes_eq, List.nodup_cons] at hnodup
  exact (List.nodup_flatMap.1 hnodup.2).2

theorem DistinctIds.eq_of_mem_nodes {c d m n : SourceNode} (h : n.DistinctIds)
    (hc : c ∈ n.children) (hd : d ∈ n.children) (hmc : m ∈ c.nodes) (hmd : m ∈ d.nodes) :
    c = d := by
  -- The nodes below two children are disjoint.
  by_contra hne
  have : Std.Symm fun c d : SourceNode => List.Disjoint c.nodes d.nodes :=
    ⟨fun _ _ hcd _ hd hc => hcd hc hd⟩
  exact h.disjoint_children.forall hc hd hne hmc hmd

theorem DistinctIds.nodup_children {n : SourceNode} (h : n.DistinctIds) : n.children.Nodup := by
  apply h.disjoint_children.imp
  rintro c d hcd rfl
  exact hcd c.mem_nodes_self c.mem_nodes_self

end MarkupAudit.SourceNode
