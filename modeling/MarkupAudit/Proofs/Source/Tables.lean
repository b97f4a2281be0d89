import MarkupAudit.Proofs.Source.Recursion

/-! The tables hold a node when they have the converted form of it. A node whose dependencies are all
held is built as the recursion converts it, and a node that can be converted has dependencies that
can. -/
namespace MarkupAudit

/-- What a node of a source tree is converted to. -/
inductive Converted where
  | markup (node : Node)
  | expression (e : Expression)
  | attr (a : Attribute)

def SourceNode.convertedIn (bytes : Array UInt8) (n : SourceNode) :
    Except ConversionFailure Converted :=
  if n.isExpression then (n.expressionIn bytes).map .expression
  else if n.kind == "jsx_attribute" then (n.attributeIn bytes).map .attr
  else (n.elementIn bytes).map .markup

namespace Conversion

def Tables.find? (t : Tables) (n : SourceNode) : Option Converted :=
  if n.isExpression then t.expressions[n.id]?.map .expression
  else if n.kind == "jsx_attribute" then t.attributes[n.id]?.map .attr
  else t.elements[n.id]?.map .markup

def Tables.enter (t : Tables) (n : SourceNode) : Converted → Tables
  | .markup e => { t with elements := t.elements.insert n.id e }
  | .expression e => { t with expressions := t.expressions.insert n.id e }
  | .attr a => { t with attributes := t.attributes.insert n.id a }

/-- Whether the tables have the converted form of a node. -/
def Tables.Holds (t : Tables) (bytes : Array UInt8) (n : SourceNode) : Prop :=
  ∃ c, n.convertedIn bytes = .ok c ∧ t.find? n = some c

theorem find?_enter_self {bytes : Array UInt8} {n : SourceNode} {c : Converted} (t : Tables)
    (h : n.convertedIn bytes = .ok c) : (t.enter n c).find? n = some c := by
  unfold SourceNode.convertedIn at h
  unfold Tables.find?
  split at h
  · obtain ⟨e, -, rfl⟩ := Outcome.map_eq_ok_iff.1 h
    simp [Tables.enter, *]
  · split at h
    · obtain ⟨a, -, rfl⟩ := Outcome.map_eq_ok_iff.1 h
      simp [Tables.enter, *]
    · obtain ⟨e, -, rfl⟩ := Outcome.map_eq_ok_iff.1 h
      simp [Tables.enter, *]

theorem find?_enter_of_ne {m n : SourceNode} (t : Tables) (c : Converted) (h : m.id ≠ n.id) :
    (t.enter n c).find? m = t.find? m := by
  have hne : (n.id == m.id) = false := beq_false_of_ne h.symm
  unfold Tables.find? Tables.enter
  cases c <;> simp only [Std.HashMap.getElem?_insert, hne, Bool.false_eq_true, if_false]

theorem holds_enter_self {bytes : Array UInt8} {n : SourceNode} {c : Converted} (t : Tables)
    (h : n.convertedIn bytes = .ok c) : (t.enter n c).Holds bytes n :=
  ⟨c, h, find?_enter_self t h⟩

theorem holds_enter {bytes : Array UInt8} {tree m n : SourceNode} {c : Converted} {t : Tables}
    (distinct : tree.DistinctIds) (hm : m ∈ tree.nodes) (hn : n ∈ tree.nodes)
    (hc : n.convertedIn bytes = .ok c) (h : t.Holds bytes m) : (t.enter n c).Holds bytes m := by
  by_cases hid : m.id = n.id
  · rw [distinct.eq_of_id_eq hm hn hid]
    exact holds_enter_self t hc
  · obtain ⟨c', hc', hf⟩ := h
    exact ⟨c', hc', (find?_enter_of_ne t c hid).trans hf⟩

/-! What is looked up of a node that the tables hold. -/

theorem Tables.Holds.expression {bytes : Array UInt8} {n : SourceNode} {t : Tables}
    (h : t.Holds bytes n) (hn : n.isExpression) :
    ∃ e, n.expressionIn bytes = .ok e ∧ entry t.expressions n = .ok e := by
  obtain ⟨c, hc, hf⟩ := h
  simp only [SourceNode.convertedIn, hn, if_true, Outcome.map_eq_ok_iff] at hc
  obtain ⟨e, he, rfl⟩ := hc
  have hf : t.expressions[n.id]? = some e := by
    simpa [Tables.find?, hn] using hf
  exact ⟨e, he, by rw [entry, hf]⟩

theorem Tables.Holds.attr {bytes : Array UInt8} {n : SourceNode} {t : Tables}
    (h : t.Holds bytes n) (hn : n.kind = "jsx_attribute") :
    ∃ a, n.attributeIn bytes = .ok a ∧ entry t.attributes n = .ok a := by
  have hx : n.isExpression = false := by simp [SourceNode.isExpression, hn]
  obtain ⟨c, hc, hf⟩ := h
  simp only [SourceNode.convertedIn, hx, hn, beq_self_eq_true, if_true, Bool.false_eq_true,
    if_false, Outcome.map_eq_ok_iff] at hc
  obtain ⟨a, ha, rfl⟩ := hc
  have hf : t.attributes[n.id]? = some a := by
    simpa [Tables.find?, hx, hn] using hf
  exact ⟨a, ha, by rw [entry, hf]⟩

theorem Tables.Holds.node {bytes : Array UInt8} {n : SourceNode} {t : Tables}
    (h : t.Holds bytes n) (hn : n.isContainer) :
    ∃ m, n.nodeIn bytes = .ok m ∧ t.node n = .ok m := by
  rw [Tables.node, SourceNode.nodeIn]
  by_cases hx : n.isExpression
  · obtain ⟨e, he, hentry⟩ := h.expression hx
    exact ⟨.expression e, by rw [if_pos hx, he]; rfl, by rw [if_pos hx, hentry]; rfl⟩
  · have hk : (n.kind == "jsx_attribute") = false := SourceNode.kind_ne_attribute_of_isContainer hn
    obtain ⟨c, hc, hf⟩ := h
    simp only [SourceNode.convertedIn, hx, hk, Bool.false_eq_true, if_false,
      Outcome.map_eq_ok_iff] at hc
    obtain ⟨e, he, rfl⟩ := hc
    have hf : t.elements[n.id]? = some e := by
      simpa [Tables.find?, hx, hk] using hf
    exact ⟨e, by rw [if_neg hx, he], by rw [if_neg hx, entry, hf]⟩

theorem entry_expressions {bytes : Array UInt8} {n : SourceNode} {t : Tables}
    (h : t.Holds bytes n) (hn : n.isExpression) :
    entry t.expressions n = n.expressionIn bytes := by
  obtain ⟨e, he, hentry⟩ := h.expression hn
  rw [he, hentry]

theorem entry_attributes {bytes : Array UInt8} {n : SourceNode} {t : Tables}
    (h : t.Holds bytes n) (hn : n.kind = "jsx_attribute") :
    entry t.attributes n = n.attributeIn bytes := by
  obtain ⟨a, ha, hentry⟩ := h.attr hn
  rw [ha, hentry]

theorem node_eq {bytes : Array UInt8} {n : SourceNode} {t : Tables}
    (h : t.Holds bytes n) (hn : n.isContainer) : t.node n = n.nodeIn bytes := by
  obtain ⟨m, hm, hnode⟩ := h.node hn
  rw [hm, hnode]

/-! What is built of a node when all that it depends on is held. -/

theorem buildExpression_eq {bytes : Array UInt8} {n : SourceNode} {t : Tables}
    (h : ∀ d ∈ n.outermostMarkup, t.Holds bytes d) :
    buildExpression bytes t n = n.expressionIn bytes := by
  have hnode : ∀ d ∈ n.outermostMarkup, t.node d = d.nodeIn bytes := fun d hd =>
    node_eq (h d hd) (SourceNode.isContainer_of_mem_outermostMarkup hd).2
  rw [buildExpression, SourceNode.expressionIn_eq, Outcome.mapM_congr hnode]

theorem buildValue_eq {bytes : Array UInt8} {v : SourceNode} {t : Tables}
    (h : v.isContainer → t.Holds bytes v) : buildValue bytes t v = v.valueIn bytes := by
  rw [buildValue, SourceNode.valueIn]
  split
  · rfl
  · split
    · rename_i hx
      rw [entry_expressions (h (SourceNode.isContainer_of_isExpression hx)) hx]
      rfl
    · split
      · rename_i hm
        have hc := SourceNode.isContainer_of_isMarkup hm
        rw [node_eq (h hc) hc]
      · rfl

theorem buildAttribute_eq {bytes : Array UInt8} {n name : SourceNode} {value? : Option SourceNode}
    {t : Tables} (hp : n.attributeParts = .ok (name, value?))
    (h : ∀ v ∈ value?, v.isContainer → t.Holds bytes v) :
    buildAttribute bytes t n = n.attributeIn bytes := by
  rw [buildAttribute, SourceNode.attributeIn_eq hp, hp]
  cases value? with
  | none => rfl
  | some v =>
    have hv := buildValue_eq (h v rfl)
    simp only [bind, Except.bind, hv]

theorem buildChild_eq {bytes : Array UInt8} {c : SourceNode} {t : Tables}
    (h : c.isContainer → t.Holds bytes c) : buildChild bytes t c = c.childIn bytes := by
  rw [buildChild, SourceNode.childIn]
  split
  · rfl
  · split
    · rfl
    · split
      · rename_i hc
        rw [node_eq (h hc) hc]
        rfl
      · rfl

theorem buildChildren_eq {bytes : Array UInt8} {n : SourceNode} {t : Tables}
    (h : ∀ c ∈ n.contentParts, t.Holds bytes c) :
    buildChildren bytes t n =
      (n.contentNodes.mapM (SourceNode.childIn bytes)).map fun cs => cs.filterMap fun c => c := by
  rw [buildChildren, SourceNode.contentNodes]
  rw [SourceNode.contentParts] at h
  split
  · rfl
  · rename_i hs
    rw [if_neg hs] at h
    have hchild : ∀ c ∈ n.namedChildren, buildChild bytes t c = c.childIn bytes := fun c hc =>
      buildChild_eq fun hk => h c (List.mem_filter.2 ⟨hc, hk⟩)
    rw [Outcome.mapM_congr hchild]
    rfl

theorem buildElement_eq {bytes : Array UInt8} {n : SourceNode} {t : Tables}
    (h : ∀ d ∈ n.tagParts ++ n.contentParts, t.Holds bytes d) :
    buildElement bytes t n = n.elementIn bytes := by
  have htag : ∀ d ∈ n.tagParts, t.Holds bytes d := fun d hd => h d (List.mem_append_left _ hd)
  have hattributes : ∀ a ∈ n.attributeNodes, t.Holds bytes a ∧ a.kind = "jsx_attribute" := by
    intro a ha
    obtain ⟨hmem, hk⟩ := List.mem_filter.1 ha
    exact ⟨htag a hmem, by simpa using hk⟩
  have hspreads : ∀ s ∈ n.spreadNodes, t.Holds bytes s ∧ s.isExpression := by
    intro s hs
    obtain ⟨hmem, hk⟩ := List.mem_filter.1 hs
    exact ⟨htag s hmem, hk⟩
  obtain ⟨as, has⟩ : ∃ as, n.attributeNodes.mapM (SourceNode.attributeIn bytes) = .ok as :=
    Outcome.exists_mapM_eq_ok_iff.2 fun a ha =>
      ((hattributes a ha).1.attr (hattributes a ha).2).imp fun _ h => h.1
  obtain ⟨ss, hss⟩ : ∃ ss, n.spreadNodes.mapM (SourceNode.expressionIn bytes) = .ok ss :=
    Outcome.exists_mapM_eq_ok_iff.2 fun s hs =>
      ((hspreads s hs).1.expression (hspreads s hs).2).imp fun _ h => h.1
  rw [buildElement, SourceNode.elementIn_eq, has, hss,
    buildChildren_eq fun c hc => h c (List.mem_append_right _ hc)]
  cases n.contentNodes.mapM (SourceNode.childIn bytes) with
  | error e => rfl
  | ok cs =>
    cases ht : namedTag? n with
    | none =>
      simp only [Except.map, bind, Except.bind, SourceNode.assembled, ht]
    | some tag =>
      obtain ⟨tag, name⟩ := tag
      have htn := (SourceNode.tagNode?_of_namedTag? ht).1
      have has' : (tag.namedChildren.filter (·.kind == "jsx_attribute")).mapM
          (entry t.attributes) = .ok as := by
        rw [← SourceNode.attributeNodes_of_tagNode? htn, ← has]
        exact Outcome.mapM_congr fun a ha =>
          entry_attributes (hattributes a ha).1 (hattributes a ha).2
      have hss' : (tag.namedChildren.filter SourceNode.isExpression).mapM
          (entry t.expressions) = .ok ss := by
        rw [← SourceNode.spreadNodes_of_tagNode? htn, ← hss]
        exact Outcome.mapM_congr fun s hs =>
          entry_expressions (hspreads s hs).1 (hspreads s hs).2
      simp only [Except.map, bind, Except.bind, has', hss', SourceNode.assembled, ht]

theorem build_eq {bytes : Array UInt8} {n : SourceNode} {deps : List SourceNode} {t : Tables}
    (hd : n.dependencies = .ok deps) (h : ∀ d ∈ deps, t.Holds bytes d) :
    build bytes t n = (n.convertedIn bytes).map (t.enter n) := by
  unfold build SourceNode.convertedIn
  rcases SourceNode.dependencies_cases hd with
    ⟨hx, rfl⟩ | ⟨hk, name, value?, hp, rfl⟩ | ⟨hx, hk, rfl⟩
  · rw [if_pos hx, if_pos hx, buildExpression_eq h]
    cases n.expressionIn bytes <;> rfl
  · have hx : ¬n.isExpression := by simp [SourceNode.isExpression, hk]
    have hk' : (n.kind == "jsx_attribute") = true := by simpa using hk
    have hv : ∀ v ∈ value?, v.isContainer → t.Holds bytes v := by
      rintro v rfl hc
      exact h v (by simp [Option.filter, hc])
    rw [if_neg hx, if_neg hx, if_pos hk', if_pos hk', buildAttribute_eq hp hv]
    cases n.attributeIn bytes <;> rfl
  · have hx : ¬n.isExpression := by simpa using hx
    have hk' : ¬(n.kind == "jsx_attribute") = true := by simpa using hk
    rw [if_neg hx, if_neg hx, if_neg hk', if_neg hk', buildElement_eq h]
    cases n.elementIn bytes <;> rfl

end Conversion

namespace SourceNode

/-! A node that can be converted has dependencies that can. -/

theorem convertedIn_attr {bytes : Array UInt8} {n : SourceNode} (hn : n.kind = "jsx_attribute") :
    n.convertedIn bytes = (n.attributeIn bytes).map .attr := by
  have hx : n.isExpression = false := by simp [isExpression, hn]
  simp [convertedIn, hx, hn]

theorem exists_convertedIn_iff {bytes : Array UInt8} {n : SourceNode} (hn : n.isContainer) :
    (∃ c, n.convertedIn bytes = .ok c) ↔ ∃ m, n.nodeIn bytes = .ok m := by
  have hk := kind_ne_attribute_of_isContainer hn
  rw [convertedIn, nodeIn]
  split <;> simp [hk, Outcome.map_eq_ok_iff]

theorem faultBelow_of_convertedIn {bytes : Array UInt8} {n : SourceNode} {e : ConversionFailure}
    (named : n.AttributesNamed) (h : n.convertedIn bytes = .error e) : FaultBelow bytes n e := by
  have hfails := failsByText bytes named
  rw [convertedIn] at h
  split at h
  · exact hfails.expression e (Outcome.map_eq_error_iff.1 h)
  · rename_i hx
    split at h
    · rename_i hk
      exact hfails.attr (by simpa using hk) e (Outcome.map_eq_error_iff.1 h)
    · apply hfails.node e
      rw [nodeIn, if_neg hx]
      exact Outcome.map_eq_error_iff.1 h

theorem exists_nodeIn_of_valueIn {bytes : Array UInt8} {n : SourceNode} {value : AttributeValue}
    (hn : n.isContainer) (h : n.valueIn bytes = .ok value) : ∃ m, n.nodeIn bytes = .ok m := by
  have hstring : n.kind ≠ "string" := by
    intro hk
    simp [isContainer, isMarkup, isExpression, hk] at hn
  rw [valueIn, if_neg (by simpa using hstring)] at h
  split at h
  · rename_i hx
    obtain ⟨e, he, -⟩ := Outcome.map_eq_ok_iff.1 h
    exact ⟨.expression e, by rw [nodeIn, if_pos hx, he]; rfl⟩
  · rename_i hx
    have hm : n.isMarkup := by simpa [isContainer, hx] using hn
    rw [if_pos hm] at h
    obtain ⟨source, -, h⟩ := Outcome.bind_eq_ok_iff.1 h
    obtain ⟨m, hm, -⟩ := Outcome.bind_eq_ok_iff.1 h
    exact ⟨m, hm⟩

theorem exists_nodeIn_of_childIn {bytes : Array UInt8} {n : SourceNode} {child : Option Node}
    (hn : n.isContainer) (h : n.childIn bytes = .ok child) : ∃ m, n.nodeIn bytes = .ok m := by
  have htext : n.kind ≠ "jsx_text" := by
    intro hk
    simp [isContainer, isMarkup, isExpression, hk] at hn
  have hreference : n.kind ≠ "html_character_reference" := by
    intro hk
    simp [isContainer, isMarkup, isExpression, hk] at hn
  rw [childIn, if_neg (by simpa using htext), if_neg (by simpa using hreference), if_pos hn] at h
  obtain ⟨m, hm, -⟩ := Outcome.map_eq_ok_iff.1 h
  exact ⟨m, hm⟩

theorem exists_convertedIn_of_mem_dependencies {bytes : Array UInt8} {d n : SourceNode}
    {deps : List SourceNode} {c : Converted} (hc : n.convertedIn bytes = .ok c)
    (hdeps : n.dependencies = .ok deps) (hd : d ∈ deps) :
    ∃ c, d.convertedIn bytes = .ok c := by
  rcases dependencies_cases hdeps with ⟨hx, rfl⟩ | ⟨hk, name, value?, hp, rfl⟩ | ⟨hx, hk, rfl⟩
  · rw [convertedIn, if_pos hx, expressionIn_eq] at hc
    obtain ⟨e, he, -⟩ := Outcome.map_eq_ok_iff.1 hc
    obtain ⟨source, -, he⟩ := Outcome.bind_eq_ok_iff.1 he
    obtain ⟨children, hchildren, -⟩ := Outcome.bind_eq_ok_iff.1 he
    obtain ⟨m, hm⟩ := Outcome.exists_mapM_eq_ok_iff.1 ⟨children, hchildren⟩ d hd
    exact (exists_convertedIn_iff (isContainer_of_mem_outermostMarkup hd).2).2 ⟨m, hm⟩
  · obtain ⟨rfl, hcontainer⟩ := mem_of_mem_valueDependency hd
    rw [convertedIn_attr hk, attributeIn_eq hp] at hc
    obtain ⟨a, ha, -⟩ := Outcome.map_eq_ok_iff.1 hc
    obtain ⟨text, -, ha⟩ := Outcome.bind_eq_ok_iff.1 ha
    obtain ⟨value, hvalue, -⟩ := Outcome.bind_eq_ok_iff.1 ha
    obtain ⟨m, hm⟩ := exists_nodeIn_of_valueIn hcontainer hvalue
    exact (exists_convertedIn_iff hcontainer).2 ⟨m, hm⟩
  · rw [convertedIn, if_neg (by simpa using hx), if_neg (by simpa using hk), elementIn_eq] at hc
    obtain ⟨e, he, -⟩ := Outcome.map_eq_ok_iff.1 hc
    obtain ⟨attributes, hattributes, he⟩ := Outcome.bind_eq_ok_iff.1 he
    obtain ⟨spreads, hspreads, he⟩ := Outcome.bind_eq_ok_iff.1 he
    obtain ⟨children, hchildren, -⟩ := Outcome.bind_eq_ok_iff.1 he
    rcases List.mem_append.1 hd with hd | hd
    · rcases mem_attributeNodes_or_mem_spreadNodes hd with ha | ⟨hs, hsx⟩
      · obtain ⟨a, hconv⟩ := Outcome.exists_mapM_eq_ok_iff.1 ⟨attributes, hattributes⟩ d ha
        exact ⟨.attr a, by
          rw [convertedIn_attr (mem_tagParts_of_mem_attributeNodes ha).2, hconv]; rfl⟩
      · obtain ⟨s, hconv⟩ := Outcome.exists_mapM_eq_ok_iff.1 ⟨spreads, hspreads⟩ d hs
        exact ⟨.expression s, by rw [convertedIn, if_pos hsx, hconv]; rfl⟩
    · obtain ⟨hmem, hcontainer⟩ := mem_contentNodes_of_mem_contentParts hd
      obtain ⟨child, hchild⟩ := Outcome.exists_mapM_eq_ok_iff.1 ⟨children, hchildren⟩ d hmem
      obtain ⟨m, hm⟩ := exists_nodeIn_of_childIn hcontainer hchild
      exact (exists_convertedIn_iff hcontainer).2 ⟨m, hm⟩

end SourceNode

end MarkupAudit
