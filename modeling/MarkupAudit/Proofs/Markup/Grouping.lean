import Mathlib.Data.List.Forall2
import MarkupAudit.Proofs.Markup.Occurrence

/-! A run of neighbouring nodes may be held by one fragment or one expression, at any place of a
tree, and the walk comes to the same elements in the same order. An element around the run is walked
at the same point with the run grouped inside it; every other element is the same. -/
namespace MarkupAudit

/-- A list of nodes, and the list in which a fragment or an expression holds a run of them. -/
inductive Grouped : List Node → List Node → Prop where
  | fragment (before run after : List Node) :
      Grouped (before ++ run ++ after) (before ++ .fragment run :: after)
  | expression (source : String) (before run after : List Node) :
      Grouped (before ++ run ++ after) (before ++ .expression ⟨source, run⟩ :: after)

theorem Grouped.elementsOf_eq {ns ms : List Node} (h : Grouped ns ms) :
    elementsOf ns = elementsOf ms := by
  cases h with
  | fragment before run after =>
    rw [elementsOf_append, elementsOf_append, elementsOf_append, elementsOf, Node.elements,
      List.append_assoc]
  | expression source before run after =>
    rw [elementsOf_append, elementsOf_append, elementsOf_append, elementsOf, Node.elements,
      Expression.elements_eq, List.append_assoc]

/-- A node without the list of nodes in one of its parts. -/
inductive Frame where
  | fragment
  | expression (source : String)
  | children (e : Element)
  | value (e : Element) (before : List Attribute) (name source : String) (after : List Attribute)
  | spread (e : Element) (before : List Expression) (source : String) (after : List Expression)

namespace Frame

def fill : Frame → List Node → Node
  | fragment, ns => .fragment ns
  | expression source, ns => .expression ⟨source, ns⟩
  | children e, ns => .element { e with children := ns }
  | value e before name source after, ns =>
    .element { e with attributes := before ++ ⟨name, .expression ⟨source, ns⟩⟩ :: after }
  | spread e before source after, ns =>
    .element { e with spreads := before ++ ⟨source, ns⟩ :: after }

theorem exists_nested_fill (frame : Frame) :
    ∃ front back, ∀ ns, (frame.fill ns).nested = front ++ ns ++ back := by
  cases frame with
  | fragment => exact ⟨[], [], fun ns => (List.append_nil ns).symm⟩
  | expression source => exact ⟨[], [], fun ns => (List.append_nil ns).symm⟩
  | children e =>
    refine ⟨e.attributes.flatMap (·.value.children) ++ e.spreads.flatMap Expression.children, [],
      fun ns => ?_⟩
    simp [fill, Node.nested, Element.nested]
  | value e before name source after =>
    refine ⟨before.flatMap (·.value.children), after.flatMap (·.value.children) ++
      (e.spreads.flatMap Expression.children ++ e.children), fun ns => ?_⟩
    simp [fill, Node.nested, Element.nested, AttributeValue.children]
  | spread e before source after =>
    refine ⟨e.attributes.flatMap (·.value.children) ++ before.flatMap Expression.children,
      after.flatMap Expression.children ++ e.children, fun ns => ?_⟩
    simp [fill, Node.nested, Element.nested]

end Frame

theorem exists_append_of_getElem? {α : Type} {xs : List α} {i : Nat} {x : α}
    (h : xs[i]? = some x) : ∃ before after, xs = before ++ x :: after ∧ before.length = i := by
  obtain ⟨hi, hx⟩ := List.getElem?_eq_some_iff.mp h
  refine ⟨xs.take i, xs.drop (i + 1), ?_, List.length_take_of_le hi.le⟩
  rw [← hx, ← List.drop_eq_getElem_cons hi, List.take_append_drop]

theorem Node.exists_frame {n : Node} {slot : Slot} (h : n.inSlot slot ≠ []) :
    ∃ frame : Frame, frame.fill (n.inSlot slot) = n ∧
      ∀ ns, (frame.fill ns).inSlot slot = ns := by
  cases n with
  | element e =>
    obtain ⟨tag, attributes, content, line, column, spreads⟩ := e
    cases slot with
    | value i =>
      cases ha : attributes[i]? with
      | none => simp [inSlot, ha] at h
      | some a =>
        obtain ⟨name, _ | s | ⟨source, ns⟩⟩ := a
        · simp [inSlot, ha, AttributeValue.children] at h
        · simp [inSlot, ha, AttributeValue.children] at h
        · obtain ⟨before, after, rfl, rfl⟩ := exists_append_of_getElem? ha
          let around : Element := ⟨tag, [], content, line, column, spreads⟩
          refine ⟨.value around before name source after, ?_, fun ns => ?_⟩ <;>
            simp [around, inSlot, Frame.fill, AttributeValue.children]
    | spread i =>
      cases hs : spreads[i]? with
      | none => simp [inSlot, hs] at h
      | some s =>
        obtain ⟨source, ns⟩ := s
        obtain ⟨before, after, rfl, rfl⟩ := exists_append_of_getElem? hs
        let around : Element := ⟨tag, attributes, content, line, column, []⟩
        refine ⟨.spread around before source after, ?_, fun ns => ?_⟩ <;>
          simp [around, inSlot, Frame.fill]
    | content =>
      exact ⟨.children ⟨tag, attributes, content, line, column, spreads⟩, rfl, fun ns => rfl⟩
  | text s => cases slot <;> exact absurd rfl h
  | expression e =>
    obtain ⟨source, ns⟩ := e
    cases slot with
    | value i => exact absurd rfl h
    | spread i => exact absurd rfl h
    | content => exact ⟨.expression source, rfl, fun ns => rfl⟩
  | fragment ns =>
    cases slot with
    | value i => exact absurd rfl h
    | spread i => exact absurd rfl h
    | content => exact ⟨.fragment, rfl, fun ns => rfl⟩

/-- A tree, and the tree in which a run of neighbouring nodes in one part of one node is held by a
fragment or an expression. -/
inductive Node.Regroups : Node → Node → Prop where
  | here (frame : Frame) {ns ms : List Node} (h : Grouped ns ms) :
      Regroups (frame.fill ns) (frame.fill ms)
  | within (frame : Frame) (before after : List Node) {n m : Node} (h : Regroups n m) :
      Regroups (frame.fill (before ++ n :: after)) (frame.fill (before ++ m :: after))

/-- What the opening tag of an element says but for the code in it: the tag, the attributes with
their literals, and the position. -/
def Element.opening (e : Element) :
    String × List (String × Option String) × Option Int × Option Int :=
  (e.tag, e.attributes.map fun a => (a.name, a.literal?), e.line, e.column)

/-- The same element, or the element around the run that is grouped. -/
def Element.Regrouped (e f : Element) : Prop :=
  e = f ∨ (Node.element e).Regroups (.element f)

namespace Node.Regroups

theorem opening_fill (frame : Frame) (ns ms : List Node) :
    (frame.fill ns).element?.map Element.opening =
      (frame.fill ms).element?.map Element.opening := by
  cases frame <;> simp [Frame.fill, element?, Element.opening, Attribute.literal?,
    AttributeValue.literal?]

theorem opening_eq {n m : Node} (h : n.Regroups m) :
    n.element?.map Element.opening = m.element?.map Element.opening := by
  cases h with
  | here frame h => exact opening_fill frame _ _
  | within frame before after h => exact opening_fill frame _ _

theorem forall₂_element? {n m : Node} (h : n.Regroups m) :
    List.Forall₂ Element.Regrouped n.element?.toList m.element?.toList := by
  have hopening := h.opening_eq
  cases n <;> cases m <;> simp [element?] at hopening ⊢
  exact .inr h

theorem exists_at {r n : Node} {way : List Step} {slot : Slot} {ms : List Node}
    (hway : r.at? way = some n) (hslot : n.inSlot slot ≠ []) (h : Grouped (n.inSlot slot) ms) :
    ∃ s m, r.Regroups s ∧ s.at? way = some m ∧ m.inSlot slot = ms := by
  -- Along the way, from the run up to the top.
  induction way generalizing r with
  | nil =>
    obtain rfl := Option.some.inj hway
    obtain ⟨frame, hfill, hslots⟩ := exists_frame hslot
    have hgroups := here frame h
    rw [hfill] at hgroups
    exact ⟨_, _, hgroups, rfl, hslots ms⟩
  | cons step way ih =>
    obtain ⟨outer, i⟩ := step
    obtain ⟨c, hc, hway⟩ := Option.bind_eq_some_iff.mp hway
    obtain ⟨s, m, hgroups, hs, hm⟩ := ih hway
    have hne : r.inSlot outer ≠ [] := List.ne_nil_of_mem (List.mem_of_getElem? hc)
    obtain ⟨frame, hfill, hslots⟩ := exists_frame hne
    obtain ⟨before, after, hsplit, rfl⟩ := exists_append_of_getElem? hc
    have houter := within frame before after hgroups
    rw [← hsplit, hfill] at houter
    refine ⟨_, m, houter, ?_, hm⟩
    simp [at?, hslots, hs]

theorem forall₂_between (front back : List Element) {es fs : List Element}
    (h : List.Forall₂ Element.Regrouped es fs) :
    List.Forall₂ Element.Regrouped (front ++ es ++ back) (front ++ fs ++ back) := by
  have hrefl (es : List Element) : List.Forall₂ Element.Regrouped es es :=
    List.forall₂_same.mpr fun _ _ => .inl rfl
  exact List.rel_append (List.rel_append (hrefl front) h) (hrefl back)

theorem forall₂_fill {frame : Frame} {ns ms : List Node}
    (h : (frame.fill ns).Regroups (frame.fill ms))
    (hfill : List.Forall₂ Element.Regrouped (elementsOf ns) (elementsOf ms)) :
    List.Forall₂ Element.Regrouped (frame.fill ns).elements (frame.fill ms).elements := by
  obtain ⟨front, back, hnested⟩ := frame.exists_nested_fill
  rw [elements_eq, elements_eq, hnested, hnested]
  simp only [elementsOf_append]
  exact List.rel_append h.forall₂_element? (forall₂_between _ _ hfill)

theorem forall₂_elements {n m : Node} (h : n.Regroups m) :
    List.Forall₂ Element.Regrouped n.elements m.elements := by
  induction h with
  | here frame h =>
    refine forall₂_fill (.here frame h) ?_
    rw [h.elementsOf_eq]
    exact List.forall₂_same.mpr fun _ _ => .inl rfl
  | @within frame before after n m h ih =>
    refine forall₂_fill (.within frame before after h) ?_
    have hsiblings (c : Node) : elementsOf (before ++ c :: after) =
        elementsOf before ++ c.elements ++ elementsOf after := by
      rw [elementsOf_append, elementsOf, List.append_assoc]
    rw [hsiblings, hsiblings]
    exact forall₂_between _ _ ih

end Node.Regroups

theorem Element.Regrouped.opening_eq {e f : Element} (h : e.Regrouped f) :
    e.opening = f.opening := by
  obtain rfl | h := h
  · rfl
  · exact Option.some.inj h.opening_eq

theorem map_opening_eq {es fs : List Element} (h : List.Forall₂ Element.Regrouped es fs) :
    es.map Element.opening = fs.map Element.opening := by
  induction h with
  | nil => rfl
  | cons h _ ih => rw [List.map_cons, List.map_cons, h.opening_eq, ih]

/-- The loop lists the elements that recursion on the tree lists, each place with an element once
and in its turn, so there are as many as places. Grouping a run of the topmost nodes changes none of
them. A run in any part of any node can be grouped, and that changes only the elements around it,
not in what their opening tags say. -/
theorem Root.elements_preorder (r : Root) :
    r.elements = r.tree.elements ∧
    (∃ ways : List (List Step), ways.Nodup ∧
      (∀ way, way ∈ ways ↔ ∃ e, r.tree.at? way = some (.element e)) ∧
      ways.map r.tree.at? = r.elements.map (some ∘ .element)) ∧
    {way | ∃ e, r.tree.at? way = some (.element e)}.encard = r.elements.length ∧
    (∀ s : Root, Grouped r.nodes s.nodes → s.elements = r.elements) ∧
    (∀ way n slot ms, r.tree.at? way = some n → n.inSlot slot ≠ [] → Grouped (n.inSlot slot) ms →
      ∃ s m, r.tree.Regroups s ∧ s.at? way = some m ∧ m.inSlot slot = ms) ∧
    ∀ s : Root, r.tree.Regroups s.tree →
      List.Forall₂ Element.Regrouped r.elements s.elements ∧
        s.elements.map Element.opening = r.elements.map Element.opening := by
  refine ⟨r.elements_eq_tree, ?_, ?_, fun s h => ?_,
    fun way n slot ms => Node.Regroups.exists_at, fun s h => ?_⟩
  · rw [r.elements_eq_tree]
    exact ⟨r.tree.ways, r.tree.nodup_ways, fun _ => Node.mem_ways_iff, r.tree.map_at?_ways⟩
  · rw [r.elements_eq_tree]
    exact r.tree.encard_places
  · rw [Root.elements_eq, Root.elements_eq, h.elementsOf_eq]
  · have hpairs := h.forall₂_elements
    rw [← Root.elements_eq_tree, ← Root.elements_eq_tree] at hpairs
    exact ⟨hpairs, (map_opening_eq hpairs).symm⟩

def itemList (icon items : List Node) : Element where
  tag := "ul"
  attributes := [⟨"title", .literal "menu"⟩, ⟨"icon", .expression ⟨"<svg/>", icon⟩⟩]
  children := items

theorem Root.elements_preorder_itemList :
    let items : List Node := [.element { tag := "li" }, .text " ", .element { tag := "li" }]
    let icon : Node := .element { tag := "svg" }
    let r : Root := .document ⟨[.element (itemList [icon] items)]⟩
    let s : Root := .document ⟨[.expression ⟨"menu", [.element (itemList [icon] items)]⟩]⟩
    let t : Root := .document ⟨[.element (itemList [icon] [.fragment items])]⟩
    let u : Root := .document ⟨[.element (itemList [.fragment [icon]] items)]⟩
    Grouped r.nodes s.nodes ∧ s.elements = r.elements ∧
      r.tree.Regroups t.tree ∧ t.elements.map Element.opening = r.elements.map Element.opening ∧
      r.tree.Regroups u.tree ∧ u.elements.map Element.opening = r.elements.map Element.opening ∧
      r.elements.map Element.tag = ["ul", "svg", "li", "li"] := by
  intro items icon r s t u
  have hs : Grouped r.nodes s.nodes := .expression "menu" [] [.element (itemList [icon] items)] []
  have ht : r.tree.Regroups t.tree :=
    .within .fragment [] [] (.here (.children (itemList [icon] items)) (.fragment [] items []))
  have hu : r.tree.Regroups u.tree :=
    .within .fragment [] [] (.here (.value (itemList [icon] items) [⟨"title", .literal "menu"⟩]
      "icon" "<svg/>" []) (.fragment [] [icon] []))
  obtain ⟨htree, -, -, hgrouped, -, hregroups⟩ := r.elements_preorder
  refine ⟨hs, hgrouped s hs, ht, (hregroups t ht).2, hu, (hregroups u hu).2, ?_⟩
  rw [htree]
  rfl

end MarkupAudit
