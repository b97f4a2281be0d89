import MarkupAudit.Proofs.Source.Refinement
import MarkupAudit.Proofs.Source.Visits
import MarkupAudit.Source.Parse

/-! From source to walk: the walk over the markup of a source meets exactly one element for every
element of the source tree. -/
namespace MarkupAudit.SourceNode

/-- Whether the walk over what a node is converted to meets the elements at and below the node. -/
structure WalkAgrees (bytes : Array UInt8) (n : SourceNode) : Prop where
  node : n.isContainer → ∀ m, n.nodeIn bytes = .ok m →
    List.Forall₂ (StandsFor bytes) n.elementNodes m.elements
  expression : n.isExpression → ∀ e, n.expressionIn bytes = .ok e →
    List.Forall₂ (StandsFor bytes) n.elementNodes e.elements
  attr : n.kind = "jsx_attribute" → ∀ a, n.attributeIn bytes = .ok a →
    List.Forall₂ (StandsFor bytes) n.elementNodes (elementsOf a.value.children)

section
variable {bytes : Array UInt8} {tree n : SourceNode} (h : tree.TsxShape)
include h

/-- In a tree of the shape that markup has, conversion drops no element. -/
theorem walkedNodes_eq_elementNodes (hn : n ∈ tree.nodes)
    (hkind : n.isContainer ∨ n.kind = "jsx_attribute") : n.walkedNodes = n.elementNodes := by
  induction n using induction_on_weight with
  | step n ih =>
    have hkept {ps : List SourceNode} (hps : n.keptParts = ps)
        (hcontainer : ∀ p ∈ ps, p.isContainer ∨ p.kind = "jsx_attribute") :
        n.keptParts.flatMap walkedNodes = ps.flatMap elementNodes := by
      subst hps
      apply List.flatMap_congr
      intro p hp
      exact ih p (weight_lt_of_mem_keptParts hp)
        (mem_nodes_trans (mem_nodes_of_mem_keptParts hp) hn) (hcontainer p hp)
    cases hm : n.isMarkup with
    | true =>
      have hparts : n.keptParts = n.walkParts := by
        rw [keptParts, if_pos hm]
        split
        · rfl
        · rename_i hnone
          rw [walkParts, attributeNodes, spreadNodes,
            h.nameless_bare n hn hm (by simpa using hnone)]
          rfl
      rw [walkedNodes_eq, elementNodes_of_isMarkup hm, hkept hparts fun p hp =>
        isContainer_or_attribute_of_mem_walkParts hp]
    | false =>
      rw [walkedNodes_of_not_isMarkup hm, collectsMarkup_elementNodes n hm]
      rcases hkind with hcontainer | hk
      · have hx : n.isExpression := by simpa [isContainer, hm] using hcontainer
        have hparts : n.keptParts = n.outermostMarkup := by
          rw [keptParts, if_neg (by simp [hm]), if_pos hx]
        rw [hkept hparts fun p hp => .inl (isContainer_of_mem_outermostMarkup hp).2,
          collectsMarkup_elementNodes.flatMap_outermostMarkup]
      · have hx : n.isExpression = false := by simp [isExpression, hk]
        have hshape := h.attribute_shape n hn hk
        obtain ⟨⟨name, value?⟩, hp⟩ := exists_attributeParts (h.attributesNamed n hn hk)
        have hparts : n.keptParts = (value?.filter isContainer).toList := by
          rw [keptParts, if_neg (by simp [hm]), if_neg (by simp [hx]), valueParts_eq hp]
        rw [hkept hparts fun p hp => .inl (mem_of_mem_valueDependency hp).2,
          collectsMarkup_elementNodes.flatMap_children_of_attribute hshape
            (fun c hc => h.comment_free c (mem_nodes_trans (mem_nodes_of_mem_children hc) hn)) hp]
        cases value? with
        | none => rfl
        | some v =>
          rcases (hshape.parts hp).2.2 v rfl with ⟨hstring, hfree⟩ | hv
          · have hv : v.isContainer = false := by
              simp [isContainer, isMarkup, isExpression, hstring]
            simp [Option.filter, hv, collectsMarkup_elementNodes.eq_nil hfree]
          · simp [Option.filter, hv]

theorem walkAgrees (hn : n ∈ tree.nodes) : WalkAgrees bytes n where
  node := by
    intro hcontainer m hm
    rw [← walkedNodes_eq_elementNodes h hn (.inl hcontainer)]
    exact (visits bytes n).node hcontainer m hm
  expression := by
    intro hx e he
    rw [← walkedNodes_eq_elementNodes h hn (.inl (isContainer_of_isExpression hx))]
    exact (visits bytes n).expression hx e he
  attr := by
    intro hk a ha
    rw [← walkedNodes_eq_elementNodes h hn (.inr hk)]
    exact (visits bytes n).attr hk a ha

end

theorem exists_nodeIn {bytes : Array UInt8} {tree n : SourceNode} (named : tree.AttributesNamed)
    (texts : ∀ m ∈ tree.nodes, ∃ s, m.textIn bytes = .ok s) (hn : n ∈ tree.nodes) :
    ∃ m, n.nodeIn bytes = .ok m := by
  cases h : n.nodeIn bytes with
  | ok m => exact ⟨m, rfl⟩
  | error e =>
    -- Conversion fails of a text only, and all texts can be read.
    obtain ⟨m, hm, he⟩ := (failsByText bytes (named.below hn)).node e h
    obtain ⟨s, hs⟩ := texts m (mem_nodes_trans hm hn)
    rw [hs] at he
    cases he

/-- The walk over the markup of a source without faults meets every element of its tree once: in the
order of `elementNodes`, which is source order where all attributes of a tag are written before all
its spread attributes. -/
theorem parseSource_walk {grammar : Grammar} {source : String} {tree : SourceNode}
    (parsed : grammar source = some tree) (sound : tree.hasError = false)
    (distinct : tree.DistinctIds) (shape : tree.TsxShape)
    (texts : ∀ n ∈ tree.nodes, ∃ s, n.textIn (Text.Utf8.bytesOf source) = .ok s) :
    ∃ d, (parseSource grammar source).value = .ok d ∧
      List.Forall₂ (StandsFor (Text.Utf8.bytesOf source)) tree.elementNodes
        (Root.document d).elements ∧
      tree.elementNodes.Perm tree.namedElements ∧
      ((∀ n ∈ tree.nodes, n.tagParts = n.attributeNodes ++ n.spreadNodes) →
        tree.elementNodes = tree.namedElements) := by
  have named := shape.attributesNamed
  have hroots : ∀ r ∈ tree.outermostMarkup, r ∈ tree.nodes ∧ r.isContainer := by
    intro r hr
    obtain ⟨hm, hmem⟩ := of_mem_outermostMarkup hr
    exact ⟨hmem, isContainer_of_isMarkup hm⟩
  obtain ⟨ns, hns⟩ := Outcome.exists_mapM_eq_ok_iff.2 fun r hr =>
    exists_nodeIn named texts (hroots r hr).1
  have hconvert := Conversion.convert_eq_of_recursion distinct named hroots hns
  have hdocument : Document.ofTree (Text.Utf8.bytesOf source) tree = .ok ⟨ns⟩ := by
    rw [Document.ofTree, if_neg (by simp [sound]), hconvert]
  refine ⟨⟨ns⟩, ?_, ?_, ?_, ?_⟩
  · simp only [parseSource, parsed, hdocument]
  · rw [Root.elements_eq, Root.nodes, elementsOf_eq_flatMap,
      collectsMarkup_elementNodes tree shape.root,
      ← collectsMarkup_elementNodes.flatMap_outermostMarkup]
    apply Outcome.forall₂_flatMap_of_mapM hns
    intro r hr
    exact (walkAgrees shape (hroots r hr).1).node (hroots r hr).2
  · exact elementNodes_perm shape distinct tree.mem_nodes_self
  · intro hfirst
    exact elementNodes_eq shape distinct hfirst tree.mem_nodes_self

section
open Conversion

theorem quotedAttribute_shape : quotedAttribute.AttributeShape := by
  refine ⟨⟨_, some _, rfl, ?_, ?_⟩, ?_⟩
  · unfold MarkupFree
    decide
  · intro v hv
    cases hv
    refine .inl ⟨rfl, ?_⟩
    unfold MarkupFree
    decide
  · unfold MarkupFree
    decide

theorem bracedAttribute_shape : bracedAttribute.AttributeShape := by
  refine ⟨⟨_, some _, rfl, ?_, ?_⟩, ?_⟩
  · unfold MarkupFree
    decide
  · intro v hv
    cases hv
    exact .inr (by decide)
  · unfold MarkupFree
    decide

theorem nestedMarkup_distinctIds : nestedMarkup.DistinctIds := by
  unfold DistinctIds
  decide

theorem nestedMarkup_shape : nestedMarkup.TsxShape where
  root := by decide
  attribute_shape := by
    intro a ha hk
    have hmem : a ∈ nestedMarkup.nodes.filter (·.kind == "jsx_attribute") :=
      List.mem_filter.2 ⟨ha, by simpa using hk⟩
    have hattributes : nestedMarkup.nodes.filter (·.kind == "jsx_attribute") =
        [quotedAttribute, bracedAttribute] := rfl
    rw [hattributes, List.mem_pair] at hmem
    rcases hmem with rfl | rfl
    · exact quotedAttribute_shape
    · exact bracedAttribute_shape
  comment_free := by
    unfold MarkupFree
    decide
  tag_first := by
    intro n hn hk t ht
    have hmem : n ∈ nestedMarkup.nodes.filter (·.kind == "jsx_element") :=
      List.mem_filter.2 ⟨hn, by simpa using hk⟩
    have helements : nestedMarkup.nodes.filter (·.kind == "jsx_element") =
        [nestedElement, nestedFragment] := rfl
    rw [helements, List.mem_pair] at hmem
    rcases hmem with rfl | rfl
    · cases ht
      exact ⟨rfl, [], _, rfl, List.forall_mem_nil _⟩
    · cases ht
      exact ⟨rfl, [], _, rfl, List.forall_mem_nil _⟩
  placed := by
    -- Membership is decided by identity, which tells the nodes of the tree apart.
    have hplaced : ∀ n ∈ nestedMarkup.nodes, n.isMarkup → ∀ c ∈ n.children, ∀ m ∈ c.nodes,
        m.isMarkup → ∃ p ∈ n.tagParts ++ n.contentParts, m.id ∈ p.nodes.map SourceNode.id := by
      decide
    intro n hn hm c hc m hmc hmarkup
    obtain ⟨p, hp, hid⟩ := hplaced n hn hm c hc m hmc hmarkup
    have hpn : p ∈ n.nodes := by
      rcases List.mem_append.1 hp with hp | hp
      · exact mem_nodes_of_mem_tagParts hp
      · exact mem_nodes_of_mem_children (mem_children_of_mem_contentParts hp)
    exact ⟨p, hp, nestedMarkup_distinctIds.mem_nodes_of_mem_ids
      (mem_nodes_trans (mem_nodes_trans hmc (mem_nodes_of_mem_children hc)) hn)
      (mem_nodes_trans hpn hn) hid⟩
  nameless_bare := by decide

theorem nestedMarkup_texts :
    ∀ n ∈ nestedMarkup.nodes, ∃ s, n.textIn (Text.Utf8.bytesOf nestedText) = .ok s := by
  have hread : ∀ n ∈ nestedMarkup.nodes,
      (n.textIn (Text.Utf8.bytesOf nestedText)).toOption.isSome := by
    decide +kernel
  exact fun n hn => Outcome.exists_eq_ok_of_isSome (hread n hn)

/-- On the outer tag a spread attribute is written before the attributes, so the walk comes to its
element last of those on the tag. -/
theorem parseSource_nestedText :
    nestedMarkup.hasError = false ∧ nestedMarkup.DistinctIds ∧ nestedMarkup.TsxShape ∧
    (∀ n ∈ nestedMarkup.nodes, ∃ s, n.textIn (Text.Utf8.bytesOf nestedText) = .ok s) ∧
    ∃ d, (parseSource (fun _ => some nestedMarkup) nestedText).value = .ok d ∧
      List.Forall₂ (StandsFor (Text.Utf8.bytesOf nestedText)) nestedMarkup.elementNodes
        (Root.document d).elements ∧
      nestedMarkup.elementNodes.Perm nestedMarkup.namedElements ∧
      ((∀ n ∈ nestedMarkup.nodes, n.tagParts = n.attributeNodes ++ n.spreadNodes) →
        nestedMarkup.elementNodes = nestedMarkup.namedElements) :=
  ⟨rfl, nestedMarkup_distinctIds, nestedMarkup_shape, nestedMarkup_texts,
    parseSource_walk rfl rfl nestedMarkup_distinctIds nestedMarkup_shape nestedMarkup_texts⟩

end

end MarkupAudit.SourceNode
