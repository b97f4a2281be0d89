import Mathlib.Data.List.Flatten
import Mathlib.Data.List.Perm.Subperm
import MarkupAudit.Proofs.Source.Order

/-! The nodes whose elements are left when a tree is converted, whatever the shape of the tree: a
fragment drops the parts on its tag, an attribute all but its value. None of them is left twice where
the tags of elements are no content of theirs. -/
namespace MarkupAudit.SourceNode

def valueParts (n : SourceNode) : List SourceNode :=
  match n.attributeParts with
  | .error _ => []
  | .ok (_, value?) => (value?.filter isContainer).toList

/-- The parts of a node whose markup is kept when it is converted, in the order of a walk. -/
def keptParts (n : SourceNode) : List SourceNode :=
  if n.isMarkup then if (Conversion.namedTag? n).isSome then n.walkParts else n.contentParts
  else if n.isExpression then n.outermostMarkup
  else n.valueParts

theorem valueParts_eq {n name : SourceNode} {value? : Option SourceNode}
    (h : n.attributeParts = .ok (name, value?)) :
    n.valueParts = (value?.filter isContainer).toList := by
  rw [valueParts, h]

theorem valueParts_sublist (n : SourceNode) : n.valueParts.Sublist n.children := by
  unfold valueParts
  split
  · exact List.nil_sublist _
  · rename_i name value? hp
    cases hv : value?.filter isContainer with
    | none => exact List.nil_sublist _
    | some v =>
      have hmem := (mem_of_attributeParts hp).2 v (Option.filter_eq_some_iff.1 hv).1
      exact List.singleton_sublist.2 (List.mem_of_mem_filter hmem)

theorem contentParts_sublist (n : SourceNode) : n.contentParts.Sublist n.children := by
  unfold contentParts
  split
  · exact List.nil_sublist _
  · exact List.filter_sublist.trans List.filter_sublist

theorem weight_lt_of_mem_keptParts {p n : SourceNode} (h : p ∈ n.keptParts) :
    p.weight < n.weight := by
  unfold keptParts at h
  split_ifs at h
  · exact weight_lt_of_mem_walkParts h
  · exact weight_lt_of_mem_children (n.contentParts_sublist.subset h)
  · exact weight_lt_of_mem_outermostMarkup h
  · exact weight_lt_of_mem_children (n.valueParts_sublist.subset h)

theorem mem_nodes_of_mem_keptParts {p n : SourceNode} (h : p ∈ n.keptParts) : p ∈ n.nodes := by
  unfold keptParts at h
  split_ifs at h
  · exact mem_nodes_of_mem_walkParts h
  · exact mem_nodes_of_mem_children (n.contentParts_sublist.subset h)
  · exact (of_mem_outermostMarkup h).2
  · exact mem_nodes_of_mem_children (n.valueParts_sublist.subset h)

theorem isContainer_or_attribute_of_mem_walkParts {p n : SourceNode} (h : p ∈ n.walkParts) :
    p.isContainer ∨ p.kind = "jsx_attribute" := by
  rcases mem_walkParts_iff.1 h with h | h | h
  · exact .inr (mem_tagParts_of_mem_attributeNodes h).2
  · exact .inl (isContainer_of_isExpression (List.mem_filter.1 h).2)
  · exact .inl (mem_contentNodes_of_mem_contentParts h).2

/-- The elements at and below a node that a walk over its converted form comes to. -/
def walkedNodes (n : SourceNode) : List SourceNode :=
  [n].filter isNamedElement ++ n.keptParts.attach.flatMap fun ⟨p, _⟩ => walkedNodes p
termination_by n.weight
decreasing_by
  exact weight_lt_of_mem_keptParts ‹_›

theorem walkedNodes_eq (n : SourceNode) :
    n.walkedNodes = [n].filter isNamedElement ++ n.keptParts.flatMap walkedNodes := by
  rw [walkedNodes, ← flatMap_attach]

theorem isNamedElement_of_mem_walkedNodes {m n : SourceNode} (h : m ∈ n.walkedNodes) :
    m.isNamedElement := by
  induction n using induction_on_weight with
  | step n ih =>
    rw [walkedNodes_eq, List.mem_append, List.mem_flatMap] at h
    rcases h with h | ⟨p, hp, hm⟩
    · exact (List.mem_filter.1 h).2
    · exact ih p (weight_lt_of_mem_keptParts hp) hm

/-- Whether the tags of the elements of a tree are what the grammar has for tags. -/
def TagsOpen (tree : SourceNode) : Prop :=
  ∀ n ∈ tree.nodes, n.kind = "jsx_element" →
    ∀ t, n.openingTag? = some t → t.kind = "jsx_opening_element"

theorem TagsOpen.below {m n : SourceNode} (h : n.TagsOpen) (hm : m ∈ n.nodes) : m.TagsOpen :=
  fun k hk => h k (mem_nodes_trans hk hm)

theorem flatMap_nodes_collectMarkup (found : Array SourceNode) (stack : List SourceNode) :
    ((collectMarkup found stack).toList.flatMap nodes).Sublist
      (found.toList.flatMap nodes ++ stack.flatMap nodes) := by
  fun_induction collectMarkup found stack with
  | case1 found => exact List.sublist_append_left _ _
  | case2 found n stack _ ih =>
    rw [Array.toList_push, List.flatMap_append, List.flatMap_singleton, List.append_assoc] at ih
    rw [List.flatMap_cons]
    exact ih
  | case3 found n stack _ ih =>
    rw [List.flatMap_append] at ih
    rw [List.flatMap_cons, n.nodes_eq]
    exact ih.trans ((List.append_sublist_append_left _).2 (List.sublist_cons_self _ _))

theorem walkParts_perm (n : SourceNode) : n.walkParts.Perm (n.tagParts ++ n.contentParts) :=
  n.attributeNodes_append_spreadNodes_perm.append_right _

theorem tagParts_sublist {n t : SourceNode} (h : n.tagNode? = some t) :
    n.tagParts.Sublist t.children := by
  rw [tagParts_of_tagNode? h]
  exact List.filter_sublist.trans List.filter_sublist

theorem contentParts_sublist_of_opened {n t : SourceNode} {before after : List SourceNode}
    (hchildren : n.children = before ++ t :: after) (ht : t.isContainer = false) :
    n.contentParts.Sublist (before ++ after) := by
  unfold contentParts
  split
  · exact List.nil_sublist _
  · rw [namedChildren, List.filter_filter, hchildren, List.filter_append,
      List.filter_cons_of_neg (by simp [ht]), ← List.filter_append]
    exact List.filter_sublist

theorem flatMap_nodes_parts {n : SourceNode} (hm : n.isMarkup) (h : n.TagsOpen) :
    ((n.tagParts ++ n.contentParts).flatMap nodes).Subperm (n.children.flatMap nodes) := by
  cases ht : n.tagNode? with
  | none =>
    have hparts : n.tagParts = [] := by rw [tagParts, ht]
    rw [hparts, List.nil_append]
    exact (n.contentParts_sublist.flatMap nodes).subperm
  | some t =>
    have htag := tagParts_sublist ht
    rcases tagNode?_cases ht with ⟨hs, rfl⟩ | ⟨hs, hfragment, hopening⟩
    · have hcontent : t.contentParts = [] := by rw [contentParts, if_pos hs]
      rw [hcontent, List.append_nil]
      exact (htag.flatMap nodes).subperm
    · have hk : n.kind = "jsx_element" := by
        rw [isSelfClosing] at hs
        simpa [isMarkup, hs, hfragment] using hm
      have htk := h n n.mem_nodes_self hk t hopening
      obtain ⟨before, after, hchildren⟩ := List.append_of_mem (mem_children_of_openingTag? hopening)
      have hcontent := contentParts_sublist_of_opened hchildren
        (by simp [isContainer, isMarkup, isExpression, htk])
      have htagged : (n.tagParts.flatMap nodes).Sublist t.nodes := by
        rw [t.nodes_eq]
        exact (htag.flatMap nodes).trans (List.sublist_cons_self _ _)
      rw [List.flatMap_append, hchildren]
      refine (htagged.append (hcontent.flatMap nodes)).subperm.trans ?_
      rw [← List.flatMap_cons]
      exact (List.perm_middle.symm.flatMap_right nodes).subperm

theorem flatMap_nodes_keptParts {n : SourceNode} (h : n.TagsOpen) :
    (n.keptParts.flatMap nodes).Subperm (n.children.flatMap nodes) := by
  unfold keptParts
  split_ifs with hm hnamed hx
  · exact (n.walkParts_perm.flatMap_right nodes).subperm.trans (flatMap_nodes_parts hm h)
  · exact (n.contentParts_sublist.flatMap nodes).subperm
  · exact (flatMap_nodes_collectMarkup #[] n.children).subperm
  · exact (n.valueParts_sublist.flatMap nodes).subperm

theorem flatMap_subperm {f g : SourceNode → List α} {ns : List SourceNode}
    (h : ∀ n ∈ ns, (f n).Subperm (g n)) : (ns.flatMap f).Subperm (ns.flatMap g) := by
  induction ns with
  | nil => exact List.Subperm.refl _
  | cons n ns ih =>
    rw [List.flatMap_cons, List.flatMap_cons]
    exact (h n List.mem_cons_self).append (ih fun m hm => h m (List.mem_cons_of_mem n hm))

theorem walkedNodes_subperm {n : SourceNode} (h : n.TagsOpen) : n.walkedNodes.Subperm n.nodes := by
  induction n using induction_on_weight with
  | step n ih =>
    have hparts : (n.keptParts.flatMap walkedNodes).Subperm (n.keptParts.flatMap nodes) := by
      apply flatMap_subperm
      intro p hp
      exact ih p (weight_lt_of_mem_keptParts hp) (h.below (mem_nodes_of_mem_keptParts hp))
    rw [walkedNodes_eq, n.nodes_eq, ← List.singleton_append]
    exact List.filter_sublist.subperm.append (hparts.trans (flatMap_nodes_keptParts h))

theorem outermost_walkedNodes_subperm {tree : SourceNode} (h : tree.TagsOpen) :
    (tree.outermostMarkup.flatMap walkedNodes).Subperm tree.nodes := by
  have hmarkup : (tree.outermostMarkup.flatMap walkedNodes).Subperm
      (tree.outermostMarkup.flatMap nodes) := by
    apply flatMap_subperm
    intro m hm
    exact walkedNodes_subperm (h.below (of_mem_outermostMarkup hm).2)
  rw [tree.nodes_eq]
  exact hmarkup.trans ((flatMap_nodes_collectMarkup #[] tree.children).trans
    (List.sublist_cons_self _ _)).subperm

theorem nodup_outermost_walkedNodes {tree : SourceNode} (h : tree.TagsOpen)
    (distinct : tree.DistinctIds) : (tree.outermostMarkup.flatMap walkedNodes).Nodup := by
  obtain ⟨ns, hperm, hsublist⟩ := outermost_walkedNodes_subperm h
  exact hperm.nodup_iff.1 (distinct.nodup.sublist hsublist)

end MarkupAudit.SourceNode
