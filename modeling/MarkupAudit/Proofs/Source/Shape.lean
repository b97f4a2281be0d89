import MarkupAudit.Proofs.Source.Recursion

/-! The shape of the trees that a grammar gives for markup. In a tree of that shape, whatever is
collected from markup alone is collected from the parts on the tag of an element and from the parts
between its tags, and from nowhere else. -/
namespace MarkupAudit.SourceNode

def MarkupFree (n : SourceNode) : Prop :=
  ∀ m ∈ n.nodes, m.isMarkup = false

/-- An attribute is made of a name, a value that may be left out, comments and tokens. Markup stands
in the value only, and not in a quoted one. -/
def AttributeShape (a : SourceNode) : Prop :=
  (∃ name value?, a.namedChildren.filter (·.kind != "comment") = name :: Option.toList value? ∧
    name.MarkupFree ∧
    ∀ v ∈ value?, v.kind = "string" ∧ v.MarkupFree ∨ v.isContainer) ∧
  ∀ c ∈ a.children, c.named = false → c.MarkupFree

theorem AttributeShape.parts {a name : SourceNode} {value? : Option SourceNode}
    (h : a.AttributeShape) (hp : a.attributeParts = .ok (name, value?)) :
    a.namedChildren.filter (·.kind != "comment") = name :: Option.toList value? ∧
      name.MarkupFree ∧ ∀ v ∈ value?, v.kind = "string" ∧ v.MarkupFree ∨ v.isContainer := by
  obtain ⟨⟨name', value', hparts, hname, hvalue⟩, -⟩ := h
  rw [attributeParts, hparts] at hp
  have hhead : (Option.toList value').head? = value' := by cases value' <;> rfl
  cases Except.ok.inj hp
  rw [hhead]
  exact ⟨hparts, hname, hvalue⟩

/-- The tag of an element comes before its content and is no content itself. -/
def TagFirst (n t : SourceNode) : Prop :=
  t.kind = "jsx_opening_element" ∧ ∃ before after, n.children = before ++ t :: after ∧
    ∀ c ∈ before, c.named → c.isContainer = false

structure TsxShape (tree : SourceNode) : Prop where
  root : tree.isMarkup = false
  attribute_shape : ∀ a ∈ tree.nodes, a.kind = "jsx_attribute" → a.AttributeShape
  comment_free : ∀ c ∈ tree.nodes, c.kind = "comment" → c.MarkupFree
  tag_first : ∀ n ∈ tree.nodes, n.kind = "jsx_element" →
    ∀ t, n.openingTag? = some t → n.TagFirst t
  /-- Markup below markup stands in the parts of it. -/
  placed : ∀ n ∈ tree.nodes, n.isMarkup → ∀ c ∈ n.children, ∀ m ∈ c.nodes, m.isMarkup →
    ∃ p ∈ n.tagParts ++ n.contentParts, m ∈ p.nodes
  nameless_bare : ∀ n ∈ tree.nodes, n.isMarkup → Conversion.namedTag? n = none → n.tagParts = []

/-- Whether a collection takes nothing from a node that is no markup but what it takes from the
children. -/
def CollectsMarkup (f : SourceNode → List α) : Prop :=
  ∀ n, n.isMarkup = false → f n = n.children.flatMap f

theorem MarkupFree.of_mem {c n : SourceNode} (h : n.MarkupFree) (hc : c ∈ n.nodes) :
    c.MarkupFree :=
  fun m hm => h m (mem_nodes_trans hm hc)

theorem CollectsMarkup.eq_nil {f : SourceNode → List α} (hf : CollectsMarkup f) {n : SourceNode}
    (h : n.MarkupFree) : f n = [] := by
  induction n using induction_on_weight with
  | step n ih =>
    rw [hf n (h n n.mem_nodes_self), List.flatMap_eq_nil_iff]
    intro c hc
    exact ih c (weight_lt_of_mem_children hc) (h.of_mem (mem_nodes_of_mem_children hc))

theorem CollectsMarkup.flatMap_filter {f : SourceNode → List α} (hf : CollectsMarkup f)
    {ns : List SourceNode} {p : SourceNode → Bool} (h : ∀ n ∈ ns, p n = false → n.MarkupFree) :
    (ns.filter p).flatMap f = ns.flatMap f := by
  induction ns with
  | nil => rfl
  | cons n ns ih =>
    have ih := ih fun m hm => h m (List.mem_cons_of_mem n hm)
    rw [List.flatMap_cons, ← ih]
    cases hp : p n with
    | true => rw [List.filter_cons_of_pos hp, List.flatMap_cons]
    | false =>
      rw [List.filter_cons_of_neg (by simp [hp]), hf.eq_nil (h n List.mem_cons_self hp)]
      rfl

theorem CollectsMarkup.flatMap_children_of_attribute {f : SourceNode → List α}
    (hf : CollectsMarkup f) {a name : SourceNode} {value? : Option SourceNode}
    (hshape : a.AttributeShape) (hcomment : ∀ c ∈ a.children, c.kind = "comment" → c.MarkupFree)
    (hp : a.attributeParts = .ok (name, value?)) :
    a.children.flatMap f = (Option.toList value?).flatMap f := by
  obtain ⟨hparts, hname, -⟩ := hshape.parts hp
  rw [namedChildren, List.filter_filter] at hparts
  have hstray : ∀ c ∈ a.children, (c.kind != "comment" && c.named) = false → c.MarkupFree := by
    intro c hc hnot
    rcases Bool.and_eq_false_iff.1 hnot with hk | hnamed
    · exact hcomment c hc (by simpa using hk)
    · exact hshape.2 c hc hnamed
  rw [← hf.flatMap_filter hstray, hparts, List.flatMap_cons, hf.eq_nil hname]
  rfl

theorem CollectsMarkup.flatMap_collectMarkup {f : SourceNode → List α} (hf : CollectsMarkup f)
    (found : Array SourceNode) (stack : List SourceNode) :
    (collectMarkup found stack).toList.flatMap f = found.toList.flatMap f ++ stack.flatMap f := by
  fun_induction collectMarkup found stack with
  | case1 found => exact (List.append_nil _).symm
  | case2 found n stack _ ih =>
    rw [ih, Array.toList_push, List.flatMap_append, List.flatMap_cons, List.flatMap_cons,
      List.flatMap_nil, List.append_nil, List.append_assoc]
  | case3 found n stack hn ih =>
    rw [ih, List.flatMap_append, List.flatMap_cons, hf n (by simpa using hn)]

theorem CollectsMarkup.flatMap_outermostMarkup {f : SourceNode → List α} (hf : CollectsMarkup f)
    (n : SourceNode) : n.outermostMarkup.flatMap f = n.children.flatMap f :=
  hf.flatMap_collectMarkup #[] n.children

namespace TsxShape
variable {tree n : SourceNode}

theorem attributesNamed (h : tree.TsxShape) : tree.AttributesNamed := by
  intro a ha hk
  obtain ⟨⟨name, value?, hparts, -⟩, -⟩ := h.attribute_shape a ha hk
  have hname : name ∈ a.namedChildren.filter (·.kind != "comment") := by
    rw [hparts]
    exact List.mem_cons_self
  obtain ⟨hmem, hk⟩ := List.mem_filter.1 hname
  exact ⟨name, hmem, by simpa using hk⟩

section
variable (h : tree.TsxShape) (distinct : tree.DistinctIds) (hn : n ∈ tree.nodes)
  (hm : n.isMarkup)

include h distinct hn hm

theorem markupFree_of_stray {c : SourceNode} (hc : c ∈ n.children) (htag : n.tagNode? ≠ some c)
    (hparts : c ∉ n.tagParts ++ n.contentParts) : c.MarkupFree := by
  intro m hmc
  by_contra hmarkup
  obtain ⟨p, hp, hmp⟩ := h.placed n hn hm c hc m hmc (by simpa using hmarkup)
  -- Markup below a child stands in a part, and a node stands below one child only: the tag or a part.
  have hne : p ≠ c := fun hpc => hparts (hpc ▸ hp)
  have hbelow := distinct.below hn
  rcases List.mem_append.1 hp with hp | hp
  · obtain ⟨t, ht, hpt⟩ := exists_tagNode?_of_mem_tagParts hp
    rcases tagNode?_cases ht with ⟨-, rfl⟩ | ⟨-, -, hopening⟩
    · exact hne (hbelow.eq_of_mem_nodes hpt hc hmp hmc)
    · have hmt := mem_nodes_trans hmp (mem_nodes_of_mem_children hpt)
      have htc := hbelow.eq_of_mem_nodes (mem_children_of_openingTag? hopening) hc hmt hmc
      exact htag (htc ▸ ht)
  · exact hne (hbelow.eq_of_mem_nodes (mem_children_of_mem_contentParts hp) hc hmp hmc)

theorem markupFree_of_stray_on_tag {c t : SourceNode} (hs : n.isSelfClosing = false)
    (ht : n.tagNode? = some t) (htc : t.isContainer = false) (hc : c ∈ t.children)
    (hparts : c ∉ n.tagParts) : c.MarkupFree := by
  obtain ⟨hs', -⟩ | ⟨-, -, hopening⟩ := tagNode?_cases ht
  · rw [hs] at hs'
    cases hs'
  have htn := mem_children_of_openingTag? hopening
  have hbelow := distinct.below hn
  intro m hmc
  by_contra hmarkup
  have hmt := mem_nodes_trans hmc (mem_nodes_of_mem_children hc)
  obtain ⟨p, hp, hmp⟩ := h.placed n hn hm t htn m hmt (by simpa using hmarkup)
  rcases List.mem_append.1 hp with hp | hp
  · obtain ⟨t', ht', hpt⟩ := exists_tagNode?_of_mem_tagParts hp
    cases ht.symm.trans ht'
    have hpc := (hbelow.below (mem_nodes_of_mem_children htn)).eq_of_mem_nodes hpt hc hmp hmc
    exact hparts (hpc ▸ hp)
  · have hpt := hbelow.eq_of_mem_nodes (mem_children_of_mem_contentParts hp) htn hmp hmt
    have hcontainer := (mem_contentNodes_of_mem_contentParts hp).2
    rw [hpt, htc] at hcontainer
    cases hcontainer

theorem markupFree_beside_tag {c t : SourceNode} (hs : n.isSelfClosing = false)
    (ht : n.tagNode? = some t) (htn : t ∈ n.children) (hc : c ∈ n.children) (hne : t ≠ c)
    (hnot : (isContainer c && c.named) = false) : c.MarkupFree := by
  apply h.markupFree_of_stray distinct hn hm hc
  · rw [ht]
    exact fun htc => hne (Option.some.inj htc)
  · intro hp
    rcases List.mem_append.1 hp with hp | hp
    · obtain ⟨t', ht', hct⟩ := exists_tagNode?_of_mem_tagParts hp
      cases ht.symm.trans ht'
      exact hne ((distinct.below hn).eq_of_mem_nodes htn hc (mem_nodes_of_mem_children hct)
        c.mem_nodes_self)
    · rw [contentParts, if_neg (by simp [hs]), namedChildren, List.filter_filter,
        List.mem_filter, hnot] at hp
      cases hp.2

variable {f : SourceNode → List α} (hf : CollectsMarkup f)
include hf

theorem flatMap_children_of_selfClosing (hs : n.isSelfClosing) :
    n.children.flatMap f = n.tagParts.flatMap f ++ n.contentParts.flatMap f := by
  have ht : n.tagNode? = some n := by rw [tagNode?, if_pos hs]
  have hcontent : n.contentParts = [] := by rw [contentParts, if_pos hs]
  have hparts : n.tagParts = n.children.filter fun c => isAttributeLike c && c.named := by
    rw [tagParts_of_tagNode? ht, namedChildren, List.filter_filter]
  rw [hcontent, List.flatMap_nil, List.append_nil, hparts, hf.flatMap_filter]
  intro c hc hp
  apply h.markupFree_of_stray distinct hn hm hc
  · intro hnc
    have hlt := weight_lt_of_mem_children hc
    rw [Option.some.inj (ht.symm.trans hnc)] at hlt
    exact Nat.lt_irrefl _ hlt
  · rw [hcontent, List.append_nil, hparts, List.mem_filter, hp]
    intro hmem
    cases hmem.2

theorem flatMap_children_of_tagless (hs : n.isSelfClosing = false) (ht : n.tagNode? = none) :
    n.children.flatMap f = n.tagParts.flatMap f ++ n.contentParts.flatMap f := by
  have htag : n.tagParts = [] := by rw [tagParts, ht]
  have hparts : n.contentParts = n.children.filter fun c => isContainer c && c.named := by
    rw [contentParts, if_neg (by simp [hs]), namedChildren, List.filter_filter]
  rw [htag, List.flatMap_nil, List.nil_append, hparts, hf.flatMap_filter]
  intro c hc hp
  apply h.markupFree_of_stray distinct hn hm hc
  · rw [ht]
    intro hsome
    cases hsome
  · rw [htag, List.nil_append, hparts, List.mem_filter, hp]
    intro hmem
    cases hmem.2

theorem flatMap_tag {t : SourceNode} (hs : n.isSelfClosing = false) (ht : n.tagNode? = some t)
    (hkind : t.kind = "jsx_opening_element") : f t = n.tagParts.flatMap f := by
  have htm : t.isMarkup = false := by simp [isMarkup, hkind]
  have htc : t.isContainer = false := by simp [isContainer, isMarkup, isExpression, hkind]
  have hparts : n.tagParts = t.children.filter fun c => isAttributeLike c && c.named := by
    rw [tagParts_of_tagNode? ht, namedChildren, List.filter_filter]
  rw [hf t htm, hparts, hf.flatMap_filter]
  intro c hc hp
  apply h.markupFree_of_stray_on_tag distinct hn hm hs ht htc hc
  rw [hparts, List.mem_filter, hp]
  intro hmem
  cases hmem.2

theorem flatMap_children_of_opened {t : SourceNode} (hs : n.isSelfClosing = false)
    (ht : n.tagNode? = some t) :
    n.children.flatMap f = n.tagParts.flatMap f ++ n.contentParts.flatMap f := by
  obtain ⟨hs', -⟩ | ⟨-, hfragment, hopening⟩ := tagNode?_cases ht
  · rw [hs] at hs'
    cases hs'
  have hkind : n.kind = "jsx_element" := by
    rw [isSelfClosing] at hs
    simpa [isMarkup, hs, hfragment] using hm
  obtain ⟨htk, before, after, hchildren, hbefore⟩ := h.tag_first n hn hkind t hopening
  have htc : t.isContainer = false := by simp [isContainer, isMarkup, isExpression, htk]
  have htn := mem_children_of_openingTag? hopening
  let content : SourceNode → Bool := fun c => isContainer c && c.named
  have hcontent : n.contentParts = before.filter content ++ after.filter content := by
    rw [contentParts, if_neg (by simp [hs]), namedChildren, List.filter_filter, hchildren,
      List.filter_append, List.filter_cons_of_neg (by simp [htc])]
  have hnone : before.filter content = [] := by
    rw [List.filter_eq_nil_iff]
    intro c hc hcontent
    obtain ⟨hcontainer, hnamed⟩ := Bool.and_eq_true_iff.1 hcontent
    rw [hbefore c hc hnamed] at hcontainer
    cases hcontainer
  have hnotin : t ∉ before ++ after := by
    have hnodup := (distinct.below hn).nodup_children
    rw [hchildren, List.nodup_middle, List.nodup_cons] at hnodup
    exact hnodup.1
  have hstray : ∀ c ∈ before ++ after, content c = false → c.MarkupFree := by
    intro c hc hnot
    have hcn : c ∈ n.children := by
      rw [hchildren]
      exact List.perm_middle.symm.subset (List.mem_cons_of_mem t hc)
    exact h.markupFree_beside_tag distinct hn hm hs ht htn hcn (fun htc => hnotin (htc ▸ hc)) hnot
  calc n.children.flatMap f
      = before.flatMap f ++ (f t ++ after.flatMap f) := by
        rw [hchildren, List.flatMap_append, List.flatMap_cons]
    _ = (before.filter content).flatMap f ++ (f t ++ (after.filter content).flatMap f) := by
        rw [hf.flatMap_filter fun c hc => hstray c (List.mem_append_left _ hc),
          hf.flatMap_filter fun c hc => hstray c (List.mem_append_right _ hc)]
    _ = n.tagParts.flatMap f ++ n.contentParts.flatMap f := by
        rw [hcontent, hnone, h.flatMap_tag distinct hn hm hf hs ht htk]
        rfl

theorem flatMap_children :
    n.children.flatMap f = n.tagParts.flatMap f ++ n.contentParts.flatMap f := by
  cases hs : n.isSelfClosing with
  | true => exact h.flatMap_children_of_selfClosing distinct hn hm hf hs
  | false =>
    cases ht : n.tagNode? with
    | none => exact h.flatMap_children_of_tagless distinct hn hm hf hs ht
    | some t => exact h.flatMap_children_of_opened distinct hn hm hf hs ht

end

end TsxShape

end MarkupAudit.SourceNode
