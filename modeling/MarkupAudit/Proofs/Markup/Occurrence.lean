import Mathlib.Data.List.Nodup
import Mathlib.Data.Set.Card
import MarkupAudit.Proofs.Markup.Walk

/-! Where elements occur in a tree. A place is told by the way to it from the top: into which value,
spread attribute or content of each node, and to which of the nodes there. The walk comes to every
place where there is an element, once. -/
namespace MarkupAudit

inductive Slot where
  | value (index : Nat)
  | spread (index : Nat)
  | content
  deriving DecidableEq, Repr

/-- One step down: into a part of a node, to the node at a position in it. -/
abbrev Step := Slot × Nat

namespace Node

def inSlot : Node → Slot → List Node
  | .element e, .value i => (e.attributes[i]?.map (·.value.children)).getD []
  | .element e, .spread i => (e.spreads[i]?.map Expression.children).getD []
  | n, .content => n.children
  | _, _ => []

/-- The node at the end of a way down, if there is one. -/
def at? (n : Node) : List Step → Option Node
  | [] => some n
  | (slot, i) :: way => (n.inSlot slot)[i]?.bind fun m => m.at? way

def slots : Node → List Slot
  | .element e => (List.range e.attributes.length).map .value ++
      ((List.range e.spreads.length).map .spread ++ [.content])
  | _ => [.content]

def nested : Node → List Node
  | .element e => e.nested
  | n => n.children

theorem elements_eq (n : Node) : n.elements = n.element?.toList ++ elementsOf n.nested := by
  cases n with
  | element e => exact e.elements_eq
  | text s => rfl
  | expression e => exact e.elements_eq
  | fragment children => rfl

theorem sizeOf_lt_of_mem_nested {m n : Node} (h : m ∈ n.nested) : sizeOf m < sizeOf n := by
  have hlt := List.sizeOf_lt_of_mem h
  cases n with
  | element e =>
    have := sizeOf_nested_lt e
    simp only [nested, element.sizeOf_spec] at hlt ⊢
    omega
  | text s => cases h
  | expression e =>
    have := sizeOf_expression_children_lt e
    simp only [nested, children, expression.sizeOf_spec] at hlt ⊢
    omega
  | fragment ns =>
    simp only [nested, children, fragment.sizeOf_spec] at hlt ⊢
    omega

theorem flatMap_range_getElem? {α β : Type} (f : α → List β) (xs : List α) :
    (List.range xs.length).flatMap (fun i => (xs[i]?.map f).getD []) = xs.flatMap f := by
  induction xs with
  | nil => rfl
  | cons x xs ih =>
    rw [List.length_cons, List.range_succ_eq_map, List.flatMap_cons, List.flatMap_map,
      List.flatMap_cons]
    simp only [List.getElem?_cons_zero, List.getElem?_cons_succ, Option.map_some, Option.getD_some]
    rw [ih]

theorem flatMap_inSlot (n : Node) : n.slots.flatMap n.inSlot = n.nested := by
  cases n with
  | element e =>
    rw [slots, List.flatMap_append, List.flatMap_append, List.flatMap_map, List.flatMap_map,
      List.flatMap_singleton, nested, Element.nested, ← flatMap_range_getElem? _ e.attributes,
      ← flatMap_range_getElem? _ e.spreads]
    rfl
  | text s => rfl
  | expression e => exact List.flatMap_singleton _ _
  | fragment ns => exact List.flatMap_singleton _ _

theorem nodup_slots (n : Node) : n.slots.Nodup := by
  cases n with
  | element e =>
    have hvalues : ((List.range e.attributes.length).map Slot.value).Nodup :=
      List.nodup_range.map fun i j h => Slot.value.inj h
    have hspreads : ((List.range e.spreads.length).map Slot.spread).Nodup :=
      List.nodup_range.map fun i j h => Slot.spread.inj h
    refine hvalues.append (hspreads.append (List.nodup_singleton _) ?_) ?_ <;>
      simp [List.disjoint_left]
  | text s => exact List.nodup_singleton _
  | expression e => exact List.nodup_singleton _
  | fragment ns => exact List.nodup_singleton _

theorem mem_slots_of_mem_inSlot {m n : Node} {slot : Slot} (h : m ∈ n.inSlot slot) :
    slot ∈ n.slots := by
  cases n with
  | element e =>
    cases slot with
    | value i =>
      have hi : i < e.attributes.length := by
        by_contra hge
        simp [inSlot, List.getElem?_eq_none (Nat.le_of_not_lt hge)] at h
      simpa [slots] using hi
    | spread i =>
      have hi : i < e.spreads.length := by
        by_contra hge
        simp [inSlot, List.getElem?_eq_none (Nat.le_of_not_lt hge)] at h
      simpa [slots] using hi
    | content => simp [slots]
  | text s => cases slot <;> simp [inSlot, slots] at h ⊢
  | expression e => cases slot <;> simp [inSlot, slots] at h ⊢
  | fragment ns => cases slot <;> simp [inSlot, slots] at h ⊢

def stepped (n : Node) : List (Step × Node) :=
  n.slots.flatMap fun slot => (n.inSlot slot).zipIdx.map fun (m, i) => ((slot, i), m)

theorem map_snd_stepped (n : Node) : n.stepped.map Prod.snd = n.nested := by
  rw [stepped, List.map_flatMap, ← flatMap_inSlot]
  apply List.flatMap_congr
  intro slot hslot
  rw [List.map_map]
  exact List.zipIdx_map_fst 0 _

theorem mem_stepped_iff {m n : Node} {slot : Slot} {i : Nat} :
    ((slot, i), m) ∈ n.stepped ↔ (n.inSlot slot)[i]? = some m := by
  constructor
  · intro h
    simp only [stepped, List.mem_flatMap, List.mem_map, Prod.exists, Prod.mk.injEq] at h
    obtain ⟨slot', hslot, m', i', hmem, ⟨rfl, rfl⟩, rfl⟩ := h
    exact List.mem_zipIdx_iff_getElem?.mp hmem
  · intro h
    refine List.mem_flatMap.mpr ⟨slot, mem_slots_of_mem_inSlot (List.mem_of_getElem? h), ?_⟩
    exact List.mem_map.mpr ⟨(m, i), List.mem_zipIdx_iff_getElem?.mpr h, rfl⟩

theorem nodup_steps (n : Node) : (n.stepped.map Prod.fst).Nodup := by
  have hsteps (slot : Slot) : ((n.inSlot slot).zipIdx.map fun (m, i) => ((slot, i), m)).map
      Prod.fst = (List.range' 0 (n.inSlot slot).length).map (Prod.mk slot) := by
    rw [← List.zipIdx_map_snd, List.map_map, List.map_map]
    rfl
  rw [stepped, List.map_flatMap]
  simp only [hsteps]
  refine List.nodup_flatMap.mpr ⟨fun slot _ => ?_, ?_⟩
  · exact List.Nodup.map (Prod.mk_right_injective slot) List.nodup_range'
  · refine n.nodup_slots.imp fun {slot slot'} hne => List.disjoint_left.mpr ?_
    intro step hstep hstep'
    obtain ⟨i, -, rfl⟩ := List.mem_map.mp hstep
    obtain ⟨j, -, heq⟩ := List.mem_map.mp hstep'
    exact hne (Prod.ext_iff.mp heq).1.symm

theorem mem_nested_of_mem_stepped {m n : Node} {step : Step} (h : (step, m) ∈ n.stepped) :
    m ∈ n.nested := by
  rw [← map_snd_stepped]
  exact List.mem_map_of_mem h

def located (n : Node) : List (List Step × Element) :=
  n.element?.toList.map ([], ·) ++ n.stepped.attach.flatMap fun ⟨(step, m), _⟩ =>
    m.located.map fun (way, e) => (step :: way, e)
termination_by sizeOf n
decreasing_by
  exact sizeOf_lt_of_mem_nested (mem_nested_of_mem_stepped ‹_›)

theorem located_eq (n : Node) : n.located = n.element?.toList.map ([], ·) ++
    n.stepped.flatMap fun s => s.2.located.map fun (way, e) => (s.1 :: way, e) := by
  rw [located, List.flatMap_subtype (fun _ _ => rfl), List.unattach_attach]

theorem map_snd_located (n : Node) : n.located.map Prod.snd = n.elements := by
  induction n using located.induct with
  | case1 n ih =>
    have hhere : (n.element?.toList.map (([] : List Step), ·)).map Prod.snd =
        n.element?.toList := by
      rw [List.map_map]
      exact List.map_id _
    have hbelow (s : Step × Node) (hs : s ∈ n.stepped) :
        (s.2.located.map fun (way, e) => (s.1 :: way, e)).map Prod.snd = s.2.elements := by
      rw [← ih s.1 s.2 hs, List.map_map]
      rfl
    rw [located_eq, List.map_append, hhere, List.map_flatMap, List.flatMap_congr hbelow,
      elements_eq, elementsOf_eq_flatMap, ← map_snd_stepped, List.flatMap_map]

/-- The ways down to the elements of a tree, in the order in which the walk comes to them. -/
def ways (n : Node) : List (List Step) :=
  n.located.map Prod.fst

theorem nodup_ways (n : Node) : n.ways.Nodup := by
  induction n using located.induct with
  | case1 n ih =>
    have hbelow (s : Step × Node) :
        (s.2.located.map fun (way, e) => (s.1 :: way, e)).map Prod.fst =
          (s.2.located.map Prod.fst).map (s.1 :: ·) := by
      rw [List.map_map, List.map_map]
      rfl
    rw [ways, located_eq, List.map_append, List.map_flatMap]
    simp only [hbelow]
    refine List.Nodup.append ?_ (List.nodup_flatMap.mpr ⟨fun s hs => ?_, ?_⟩) ?_
    · cases n.element? <;> simp
    · exact (ih s.1 s.2 hs).map (List.cons_injective)
    · refine (List.pairwise_map.mp n.nodup_steps).imp fun {s s'} hne => List.disjoint_left.mpr ?_
      intro way hway hway'
      obtain ⟨rest, -, rfl⟩ := List.mem_map.mp hway
      obtain ⟨rest', -, heq⟩ := List.mem_map.mp hway'
      exact hne (List.cons.inj heq).1.symm
    · -- the way to the node itself has no steps
      refine List.disjoint_left.mpr fun way hway hway' => ?_
      obtain ⟨s, -, hs⟩ := List.mem_flatMap.mp hway'
      obtain ⟨rest, -, rfl⟩ := List.mem_map.mp hs
      simp at hway

theorem mem_located_iff {n : Node} {way : List Step} {e : Element} :
    (way, e) ∈ n.located ↔ n.at? way = some (.element e) := by
  induction way generalizing n with
  | nil =>
    rw [located_eq]
    cases n <;> simp [element?, at?, eq_comm]
  | cons step way ih =>
    obtain ⟨slot, i⟩ := step
    have hmem : ((slot, i) :: way, e) ∈ n.located ↔
        ∃ m, ((slot, i), m) ∈ n.stepped ∧ (way, e) ∈ m.located := by
      rw [located_eq]
      simp
    simp only [hmem, mem_stepped_iff, ih, at?, Option.bind_eq_some_iff]

theorem map_at?_ways (n : Node) : n.ways.map n.at? = n.elements.map (some ∘ .element) := by
  rw [ways, ← map_snd_located, List.map_map, List.map_map]
  exact List.map_congr_left fun _ h => mem_located_iff.mp h

theorem mem_ways_iff {n : Node} {way : List Step} :
    way ∈ n.ways ↔ ∃ e, n.at? way = some (.element e) := by
  simp [ways, mem_located_iff]

theorem encard_places (n : Node) :
    {way | ∃ e, n.at? way = some (.element e)}.encard = n.elements.length := by
  have hset : {way | ∃ e, n.at? way = some (.element e)} = ↑n.ways.toFinset := by
    ext way
    simp [mem_ways_iff]
  have hlength : n.ways.length = n.elements.length := by
    simpa using congrArg List.length n.map_at?_ways
  rw [hset, Set.encard_coe_eq_coe_finsetCard, List.toFinset_card_of_nodup n.nodup_ways, hlength]

end Node

/-- A root as one tree: a document stands like a fragment. -/
def Root.tree : Root → Node
  | .document d => .fragment d.children
  | .node n => n

theorem Root.elements_eq_tree (r : Root) : r.elements = r.tree.elements := by
  rw [Root.elements_eq]
  cases r with
  | document d => rfl
  | node n =>
    cases n with
    | element e => exact List.append_nil _
    | text s => rfl
    | expression e => exact e.elements_eq.symm
    | fragment ns => rfl

end MarkupAudit
