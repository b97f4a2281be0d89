import MarkupAudit.Proofs.Source.Nodes
import MarkupAudit.Source.Convert

/-! The nodes that a node of markup is made of, by where they stand: attributes and spread attributes
on the tag, content between the tags, outermost markup inside an expression. All of them are lighter
than the node and lie below it. -/
namespace MarkupAudit.SourceNode

def attributeNodes (n : SourceNode) : List SourceNode :=
  n.tagParts.filter (·.kind == "jsx_attribute")

def spreadNodes (n : SourceNode) : List SourceNode :=
  n.tagParts.filter isExpression

def contentNodes (n : SourceNode) : List SourceNode :=
  if n.isSelfClosing then [] else n.namedChildren

theorem tagParts_of_tagNode? {n t : SourceNode} (h : n.tagNode? = some t) :
    n.tagParts = t.namedChildren.filter isAttributeLike := by
  rw [tagParts, h]

theorem attributeNodes_of_tagNode? {n t : SourceNode} (h : n.tagNode? = some t) :
    n.attributeNodes = t.namedChildren.filter (·.kind == "jsx_attribute") := by
  rw [attributeNodes, tagParts_of_tagNode? h, List.filter_filter]
  apply List.filter_congr
  intro c _
  cases hk : c.kind == "jsx_attribute" <;> simp [isAttributeLike, hk]

theorem spreadNodes_of_tagNode? {n t : SourceNode} (h : n.tagNode? = some t) :
    n.spreadNodes = t.namedChildren.filter isExpression := by
  rw [spreadNodes, tagParts_of_tagNode? h, List.filter_filter]
  apply List.filter_congr
  intro c _
  cases hk : c.isExpression <;> simp [isAttributeLike, hk]

theorem tagNode?_of_namedTag? {n t name : SourceNode}
    (h : Conversion.namedTag? n = some (t, name)) :
    n.tagNode? = some t ∧ t.childInField? "name" = some name := by
  obtain ⟨t', ht, h⟩ := Option.bind_eq_some_iff.1 h
  obtain ⟨name', hname, h⟩ := Option.map_eq_some_iff.1 h
  cases h
  exact ⟨ht, hname⟩

theorem isContainer_of_isMarkup {n : SourceNode} (h : n.isMarkup) : n.isContainer := by
  simp [isContainer, h]

theorem isContainer_of_isExpression {n : SourceNode} (h : n.isExpression) : n.isContainer := by
  simp [isContainer, h]

theorem isExpression_of_isMarkup {n : SourceNode} (h : n.isMarkup) : n.isExpression = false := by
  by_contra hx
  have hk : n.kind = "jsx_expression" := by simpa [isExpression] using hx
  simp [isMarkup, hk] at h

theorem kind_ne_attribute_of_isContainer {n : SourceNode} (h : n.isContainer) :
    (n.kind == "jsx_attribute") = false := by
  by_contra hk
  have hk : n.kind = "jsx_attribute" := by simpa using hk
  simp [isContainer, isMarkup, isExpression, hk] at h

theorem weight_lt_of_mem {m n : SourceNode} {ns : List SourceNode} (h : m ∈ ns)
    (hle : weightOf ns ≤ weightOf n.children) : m.weight < n.weight := by
  have := weight_le_weightOf h
  have := n.weight_eq
  omega

theorem weight_lt_of_mem_tagParts {m n : SourceNode} (h : m ∈ n.tagParts) :
    m.weight < n.weight :=
  weight_lt_of_mem h n.weightOf_tagParts_le

theorem weight_lt_of_mem_namedChildren {m n : SourceNode} (h : m ∈ n.namedChildren) :
    m.weight < n.weight :=
  weight_lt_of_mem h n.weightOf_namedChildren_le

theorem weight_lt_of_mem_contentNodes {m n : SourceNode} (h : m ∈ n.contentNodes) :
    m.weight < n.weight := by
  unfold contentNodes at h
  split at h
  · cases h
  · exact weight_lt_of_mem_namedChildren h

theorem weight_lt_of_mem_outermostMarkup {m n : SourceNode} (h : m ∈ n.outermostMarkup) :
    m.weight < n.weight :=
  weight_lt_of_mem h n.weightOf_outermostMarkup

theorem mem_of_attributeParts {n name : SourceNode} {value? : Option SourceNode}
    (h : n.attributeParts = .ok (name, value?)) :
    name ∈ n.namedChildren ∧ ∀ v ∈ value?, v ∈ n.namedChildren := by
  unfold attributeParts at h
  split at h
  · cases h
  · rename_i first rest hf
    cases h
    have hmem : ∀ m ∈ name :: rest, m ∈ n.namedChildren := by
      intro m hm
      rw [← hf] at hm
      exact List.mem_of_mem_filter hm
    exact ⟨hmem name List.mem_cons_self,
      fun v hv => hmem v (List.mem_cons_of_mem name (List.mem_of_mem_head? hv))⟩

theorem mem_nodes_of_mem_namedChildren {m n : SourceNode} (h : m ∈ n.namedChildren) :
    m ∈ n.nodes :=
  mem_nodes_of_mem_children (List.mem_of_mem_filter h)

theorem mem_collectMarkup {m : SourceNode} (found : Array SourceNode)
    (stack : List SourceNode) (h : m ∈ (collectMarkup found stack).toList) :
    m ∈ found.toList ∨ m.isMarkup ∧ ∃ n ∈ stack, m ∈ n.nodes := by
  fun_induction collectMarkup found stack with
  | case1 found => exact .inl h
  | case2 found n stack hn ih =>
    rcases ih h with h | ⟨hm, n', hn', hb⟩
    · rw [Array.toList_push, List.mem_append, List.mem_singleton] at h
      rcases h with h | rfl
      · exact .inl h
      · exact .inr ⟨hn, m, List.mem_cons_self, m.mem_nodes_self⟩
    · exact .inr ⟨hm, n', List.mem_cons_of_mem n hn', hb⟩
  | case3 found n stack _ ih =>
    rcases ih h with h | ⟨hm, n', hn', hb⟩
    · exact .inl h
    · rcases List.mem_append.1 hn' with hc | hs
      · exact .inr ⟨hm, n, List.mem_cons_self, mem_nodes_iff.2 (.inr ⟨n', hc, hb⟩)⟩
      · exact .inr ⟨hm, n', List.mem_cons_of_mem n hs, hb⟩

theorem of_mem_outermostMarkup {m n : SourceNode} (h : m ∈ n.outermostMarkup) :
    m.isMarkup ∧ m ∈ n.nodes := by
  rcases mem_collectMarkup #[] n.children h with h | ⟨hm, hc⟩
  · cases h
  · exact ⟨hm, mem_nodes_iff.2 (.inr hc)⟩

theorem isContainer_of_mem_outermostMarkup {m n : SourceNode} (h : m ∈ n.outermostMarkup) :
    m ∈ n.nodes ∧ m.isContainer :=
  ⟨(of_mem_outermostMarkup h).2, isContainer_of_isMarkup (of_mem_outermostMarkup h).1⟩

theorem tagNode?_cases {n t : SourceNode} (h : n.tagNode? = some t) :
    (n.isSelfClosing ∧ t = n) ∨
    (n.isSelfClosing = false ∧ n.kind ≠ "jsx_fragment" ∧ n.openingTag? = some t) := by
  unfold tagNode? at h
  split at h
  · rename_i hs
    exact .inl ⟨hs, (Option.some.inj h).symm⟩
  · rename_i hs
    split at h
    · cases h
    · rename_i hk
      exact .inr ⟨by simpa using hs, by simpa using hk, h⟩

theorem mem_nodes_of_tagNode? {n t : SourceNode} (h : n.tagNode? = some t) : t ∈ n.nodes := by
  rcases tagNode?_cases h with ⟨-, rfl⟩ | ⟨-, -, ht⟩
  · exact t.mem_nodes_self
  · exact mem_nodes_of_mem_children (mem_children_of_openingTag? ht)

theorem exists_tagNode?_of_mem_tagParts {n p : SourceNode} (h : p ∈ n.tagParts) :
    ∃ t, n.tagNode? = some t ∧ p ∈ t.children := by
  unfold tagParts at h
  split at h
  · rename_i t ht
    exact ⟨t, ht, List.mem_of_mem_filter (List.mem_of_mem_filter h)⟩
  · cases h

theorem mem_nodes_of_mem_tagParts {m n : SourceNode} (h : m ∈ n.tagParts) : m ∈ n.nodes := by
  obtain ⟨t, ht, hm⟩ := exists_tagNode?_of_mem_tagParts h
  exact mem_nodes_trans (mem_nodes_of_mem_children hm) (mem_nodes_of_tagNode? ht)

theorem mem_nodes_of_mem_contentNodes {m n : SourceNode} (h : m ∈ n.contentNodes) :
    m ∈ n.nodes := by
  unfold contentNodes at h
  split at h
  · cases h
  · exact mem_nodes_of_mem_namedChildren h

theorem mem_nodes_of_namedTag? {n t name : SourceNode}
    (h : Conversion.namedTag? n = some (t, name)) : name ∈ n.nodes := by
  obtain ⟨ht, hname⟩ := tagNode?_of_namedTag? h
  exact mem_nodes_trans (mem_nodes_of_mem_children (List.mem_of_find?_eq_some hname))
    (mem_nodes_of_tagNode? ht)

theorem dependencies_cases {n : SourceNode} {deps : List SourceNode}
    (h : n.dependencies = .ok deps) :
    (n.isExpression ∧ deps = n.outermostMarkup) ∨
    (n.kind = "jsx_attribute" ∧ ∃ name value?, n.attributeParts = .ok (name, value?) ∧
      deps = (value?.filter isContainer).toList) ∨
    (n.isExpression = false ∧ n.kind ≠ "jsx_attribute" ∧ deps = n.tagParts ++ n.contentParts) := by
  unfold dependencies at h
  split at h
  · rename_i hx
    exact .inl ⟨hx, (Except.ok.inj h).symm⟩
  · rename_i hx
    split at h
    · rename_i hk
      split at h
      · cases h
      · rename_i name value? hp
        exact .inr (.inl ⟨by simpa using hk, name, value?, hp, (Except.ok.inj h).symm⟩)
    · rename_i hk
      exact .inr (.inr ⟨by simpa using hx, by simpa using hk, (Except.ok.inj h).symm⟩)

theorem mem_of_mem_valueDependency {d : SourceNode} {value? : Option SourceNode}
    (h : d ∈ (value?.filter isContainer).toList) : value? = some d ∧ d.isContainer := by
  obtain ⟨hd, hc⟩ := Option.filter_eq_some_iff.1 (Option.mem_toList.1 h)
  exact ⟨hd, hc⟩

theorem mem_contentNodes_of_mem_contentParts {c n : SourceNode} (h : c ∈ n.contentParts) :
    c ∈ n.contentNodes ∧ c.isContainer := by
  unfold contentParts at h
  unfold contentNodes
  split at h
  · cases h
  · rename_i hs
    rw [if_neg hs]
    exact List.mem_filter.1 h

theorem mem_children_of_mem_contentParts {c n : SourceNode} (h : c ∈ n.contentParts) :
    c ∈ n.children := by
  unfold contentParts at h
  split at h
  · cases h
  · exact List.mem_of_mem_filter (List.mem_of_mem_filter h)

theorem mem_nodes_of_mem_dependencies {d n : SourceNode} {deps : List SourceNode}
    (h : n.dependencies = .ok deps) (hd : d ∈ deps) : d ∈ n.nodes := by
  rcases dependencies_cases h with ⟨-, rfl⟩ | ⟨-, name, value?, hp, rfl⟩ | ⟨-, -, rfl⟩
  · exact (of_mem_outermostMarkup hd).2
  · exact mem_nodes_of_mem_namedChildren
      ((mem_of_attributeParts hp).2 d (mem_of_mem_valueDependency hd).1)
  · rcases List.mem_append.1 hd with hd | hd
    · exact mem_nodes_of_mem_tagParts hd
    · exact mem_nodes_of_mem_contentNodes (mem_contentNodes_of_mem_contentParts hd).1

theorem weight_lt_of_mem_dependencies {d n : SourceNode} {deps : List SourceNode}
    (h : n.dependencies = .ok deps) (hd : d ∈ deps) : d.weight < n.weight := by
  rcases dependencies_cases h with ⟨-, rfl⟩ | ⟨-, name, value?, hp, rfl⟩ | ⟨-, -, rfl⟩
  · exact weight_lt_of_mem_outermostMarkup hd
  · exact weight_lt_of_mem_namedChildren
      ((mem_of_attributeParts hp).2 d (mem_of_mem_valueDependency hd).1)
  · rcases List.mem_append.1 hd with hd | hd
    · exact weight_lt_of_mem_tagParts hd
    · exact weight_lt_of_mem_contentNodes (mem_contentNodes_of_mem_contentParts hd).1

theorem mem_tagParts_of_mem_attributeNodes {a n : SourceNode} (h : a ∈ n.attributeNodes) :
    a ∈ n.tagParts ∧ a.kind = "jsx_attribute" := by
  obtain ⟨ha, hk⟩ := List.mem_filter.1 h
  exact ⟨ha, by simpa using hk⟩

theorem mem_attributeNodes_or_mem_spreadNodes {p n : SourceNode} (h : p ∈ n.tagParts) :
    p ∈ n.attributeNodes ∨ p ∈ n.spreadNodes ∧ p.isExpression := by
  have hlike : p.isAttributeLike := by
    unfold tagParts at h
    split at h
    · exact (List.mem_filter.1 h).2
    · cases h
  rcases Bool.or_eq_true_iff.1 hlike with hk | hx
  · exact .inl (List.mem_filter.2 ⟨h, hk⟩)
  · exact .inr ⟨List.mem_filter.2 ⟨h, hx⟩, hx⟩

end MarkupAudit.SourceNode
