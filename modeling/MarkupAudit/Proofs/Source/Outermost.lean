import MarkupAudit.Proofs.Source.Refinement
import MarkupAudit.Proofs.Source.Walked

/-! The outermost markup below a node, told by the ways down to it. The search comes to an end, and
what it finds stands at the ways that lead to markup and pass none before, in source order. So of the
ways down to any markup below the node exactly one is found. -/
namespace MarkupAudit.SourceNode

/-- The search, given up after a number of turns. -/
def collectWithin : Nat → Array SourceNode → List SourceNode → Option (Array SourceNode)
  | _, found, [] => some found
  | 0, _, _ :: _ => none
  | turns + 1, found, n :: stack =>
    if n.isMarkup then collectWithin turns (found.push n) stack
    else collectWithin turns found (n.children ++ stack)

theorem exists_turn {n : SourceNode} {stack : List SourceNode} {turns : Nat}
    (h : ((n :: stack).flatMap nodes).length ≤ turns) :
    ∃ rest, turns = rest + 1 ∧ ((n.children ++ stack).flatMap nodes).length ≤ rest := by
  rw [List.flatMap_cons, nodes_eq, List.cons_append, List.length_cons, ← List.flatMap_append] at h
  exact ⟨turns - 1, by omega, by omega⟩

/-- A turn takes one node off the stack, which is never put there again. -/
theorem collectWithin_eq {turns : Nat} {found : Array SourceNode} {stack : List SourceNode}
    (h : (stack.flatMap nodes).length ≤ turns) :
    collectWithin turns found stack = some (collectMarkup found stack) := by
  fun_induction collectMarkup found stack generalizing turns with
  | case1 found =>
    cases turns <;> rfl
  | case2 found n stack hn ih =>
    obtain ⟨turns, rfl, hrest⟩ := exists_turn h
    rw [collectWithin, if_pos hn]
    apply ih
    rw [List.flatMap_append, List.length_append] at hrest
    omega
  | case3 found n stack hn ih =>
    obtain ⟨turns, rfl, hrest⟩ := exists_turn h
    rw [collectWithin, if_neg hn]
    exact ih hrest

def at? (n : SourceNode) : List Nat → Option SourceNode
  | [] => some n
  | i :: way => n.children[i]?.bind fun c => c.at? way

/-- Whether a way leads down to markup. -/
def LeadsToMarkup (n : SourceNode) (way : List Nat) : Prop :=
  ∃ m, n.at? way = some m ∧ m.isMarkup

/-- Whether none of the nodes that a way comes to before its end is markup. -/
def Uncovered (n : SourceNode) (way : List Nat) : Prop :=
  ∀ before, before <+: way → before ≠ way → ¬n.LeadsToMarkup before

def UncoveredBelow (n : SourceNode) (way : List Nat) : Prop :=
  ∀ before, before ≠ [] → before <+: way → before ≠ way → ¬n.LeadsToMarkup before

variable {c m n : SourceNode} {i : Nat} {way : List Nat}

theorem at?_cons_eq_some_iff :
    n.at? (i :: way) = some m ↔ ∃ c, n.children[i]? = some c ∧ c.at? way = some m :=
  Option.bind_eq_some_iff

theorem leadsToMarkup_nil_iff : n.LeadsToMarkup [] ↔ n.isMarkup := by
  simp [LeadsToMarkup, at?]

theorem leadsToMarkup_cons_iff :
    n.LeadsToMarkup (i :: way) ↔ ∃ c, n.children[i]? = some c ∧ c.LeadsToMarkup way := by
  simp only [LeadsToMarkup, at?_cons_eq_some_iff]
  tauto

theorem uncovered_nil (n : SourceNode) : n.Uncovered [] :=
  fun _ hbefore hne => absurd (List.prefix_nil.1 hbefore) hne

theorem uncoveredBelow_cons_iff (hc : n.children[i]? = some c) :
    n.UncoveredBelow (i :: way) ↔ c.Uncovered way := by
  constructor
  · intro h before hbefore hne hmarkup
    refine h (i :: before) (List.cons_ne_nil i before) (List.cons_prefix_cons.2 ⟨rfl, hbefore⟩) ?_
      (leadsToMarkup_cons_iff.2 ⟨c, hc, hmarkup⟩)
    rintro ⟨⟩
    exact hne rfl
  · intro h before hnil hbefore hne hmarkup
    obtain ⟨rest, rfl, hrest⟩ := (List.prefix_cons_iff.1 hbefore).resolve_left hnil
    obtain ⟨d, hd, hmarkup⟩ := leadsToMarkup_cons_iff.1 hmarkup
    cases hc.symm.trans hd
    exact h rest hrest (fun heq => hne (congrArg (i :: ·) heq)) hmarkup

theorem uncovered_cons_iff :
    n.Uncovered (i :: way) ↔ ¬n.isMarkup ∧ n.UncoveredBelow (i :: way) := by
  rw [← leadsToMarkup_nil_iff]
  constructor
  · intro h
    exact ⟨h [] List.nil_prefix (List.cons_ne_nil i way).symm, fun before _ => h before⟩
  · rintro ⟨hn, h⟩ before hbefore hne
    by_cases hnil : before = []
    · rwa [hnil]
    · exact h before hnil hbefore hne

def located (n : SourceNode) : List (List Nat × SourceNode) :=
  if n.isMarkup then [([], n)]
  else n.children.zipIdx.attach.flatMap fun ⟨(c, i), _⟩ =>
    c.located.map fun (way, m) => (i :: way, m)
termination_by n.weight
decreasing_by
  exact weight_lt_of_mem_children (List.fst_mem_of_mem_zipIdx ‹_›)

def locatedBelow (n : SourceNode) : List (List Nat × SourceNode) :=
  n.children.zipIdx.flatMap fun (c, i) => c.located.map fun (way, m) => (i :: way, m)

theorem located_of_isMarkup (h : n.isMarkup) : n.located = [([], n)] := by
  rw [located, if_pos h]

theorem located_eq_locatedBelow (h : ¬n.isMarkup) : n.located = n.locatedBelow := by
  rw [located, if_neg h, List.flatMap_subtype (fun _ _ => rfl), List.unattach_attach]
  rfl

theorem mem_locatedBelow_iff : (way, m) ∈ n.locatedBelow ↔
    ∃ i rest c, way = i :: rest ∧ n.children[i]? = some c ∧ (rest, m) ∈ c.located := by
  simp only [locatedBelow, List.mem_flatMap, List.mem_map, Prod.exists, Prod.mk.injEq,
    List.mem_zipIdx_iff_getElem?]
  constructor
  · rintro ⟨c, i, hc, rest, m', hm, rfl, rfl⟩
    exact ⟨i, rest, c, rfl, hc, hm⟩
  · rintro ⟨i, rest, c, rfl, hc, hm⟩
    exact ⟨c, i, hc, rest, m, hm, rfl, rfl⟩

theorem mem_located_iff :
    (way, m) ∈ n.located ↔ n.at? way = some m ∧ m.isMarkup ∧ n.Uncovered way := by
  induction way generalizing n with
  | nil =>
    by_cases hn : n.isMarkup
    · rw [located_of_isMarkup hn, List.mem_singleton]
      constructor
      · rintro ⟨⟩
        exact ⟨rfl, hn, uncovered_nil _⟩
      · rintro ⟨⟨⟩, -⟩
        rfl
    · rw [located_eq_locatedBelow hn, mem_locatedBelow_iff]
      constructor
      · rintro ⟨i, rest, c, ⟨⟩, -⟩
      · rintro ⟨⟨⟩, hm, -⟩
        exact absurd hm hn
  | cons i way ih =>
    by_cases hn : n.isMarkup
    · rw [located_of_isMarkup hn, List.mem_singleton]
      constructor
      · rintro ⟨⟩
      · rintro ⟨-, -, h⟩
        exact absurd hn (uncovered_cons_iff.1 h).1
    · rw [located_eq_locatedBelow hn, mem_locatedBelow_iff, at?_cons_eq_some_iff,
        uncovered_cons_iff]
      constructor
      · rintro ⟨j, rest, c, ⟨⟩, hc, hm⟩
        obtain ⟨hat, hm, hway⟩ := ih.1 hm
        exact ⟨⟨c, hc, hat⟩, hm, hn, (uncoveredBelow_cons_iff hc).2 hway⟩
      · rintro ⟨⟨c, hc, hat⟩, hm, -, hway⟩
        exact ⟨i, way, c, rfl, hc, ih.2 ⟨hat, hm, (uncoveredBelow_cons_iff hc).1 hway⟩⟩

theorem map_snd_locatedBelow (n : SourceNode) :
    n.locatedBelow.map Prod.snd = n.children.flatMap fun c => c.located.map Prod.snd := by
  have hchildren : n.children = n.children.zipIdx.map Prod.fst := (List.zipIdx_map_fst 0 _).symm
  rw [locatedBelow, List.map_flatMap]
  conv_rhs => rw [hchildren, List.flatMap_map]
  apply List.flatMap_congr
  rintro ⟨c, i⟩ -
  rw [List.map_map]
  rfl

theorem map_snd_locatedBelow_eq_outermostMarkup (n : SourceNode) :
    n.locatedBelow.map Prod.snd = n.outermostMarkup := by
  have hcollects : CollectsMarkup fun m => m.located.map Prod.snd := by
    intro m hm
    dsimp only
    rw [located_eq_locatedBelow (by simp [hm]), map_snd_locatedBelow]
  -- markup that was found is located at its own top, so collecting from it changes nothing
  have hself : ∀ m ∈ n.outermostMarkup, m.located.map Prod.snd = [m] := by
    intro m hm
    rw [located_of_isMarkup (of_mem_outermostMarkup hm).1]
    rfl
  calc n.locatedBelow.map Prod.snd
      = n.children.flatMap fun c => c.located.map Prod.snd := n.map_snd_locatedBelow
    _ = n.outermostMarkup.flatMap fun m => m.located.map Prod.snd :=
      (hcollects.flatMap_outermostMarkup n).symm
    _ = n.outermostMarkup.flatMap fun m => [m] := List.flatMap_congr hself
    _ = n.outermostMarkup := List.flatMap_singleton' _

/-- The ways down to the outermost markup below a node. -/
def outermostWays (n : SourceNode) : List (List Nat) :=
  n.locatedBelow.map Prod.fst

/-- Whether a way leads down to markup that lies below no other markup below the node. -/
structure LeadsToOutermost (n : SourceNode) (way : List Nat) : Prop where
  proper : way ≠ []
  markup : n.LeadsToMarkup way
  uncovered : n.UncoveredBelow way

theorem leadsToOutermost_cons_iff : n.LeadsToOutermost (i :: way) ↔
    ∃ c, n.children[i]? = some c ∧ c.LeadsToMarkup way ∧ c.Uncovered way := by
  constructor
  · rintro ⟨-, hmarkup, huncovered⟩
    obtain ⟨c, hc, hmarkup⟩ := leadsToMarkup_cons_iff.1 hmarkup
    exact ⟨c, hc, hmarkup, (uncoveredBelow_cons_iff hc).1 huncovered⟩
  · rintro ⟨c, hc, hmarkup, huncovered⟩
    exact ⟨List.cons_ne_nil i way, leadsToMarkup_cons_iff.2 ⟨c, hc, hmarkup⟩,
      (uncoveredBelow_cons_iff hc).2 huncovered⟩

theorem mem_outermostWays_iff : way ∈ n.outermostWays ↔ n.LeadsToOutermost way := by
  have hmem : way ∈ n.outermostWays ↔ ∃ m, (way, m) ∈ n.locatedBelow := by
    simp [outermostWays]
  simp only [hmem, mem_locatedBelow_iff, mem_located_iff]
  constructor
  · rintro ⟨m, i, rest, c, rfl, hc, hat, hm, hrest⟩
    exact leadsToOutermost_cons_iff.2 ⟨c, hc, ⟨m, hat, hm⟩, hrest⟩
  · intro h
    obtain ⟨i, rest, rfl⟩ := List.exists_cons_of_ne_nil h.proper
    obtain ⟨c, hc, ⟨m, hat, hm⟩, hrest⟩ := leadsToOutermost_cons_iff.1 h
    exact ⟨m, i, rest, c, rfl, hc, hat, hm, hrest⟩

theorem map_at?_outermostWays (n : SourceNode) :
    n.outermostWays.map n.at? = n.outermostMarkup.map some := by
  rw [← map_snd_locatedBelow_eq_outermostMarkup, outermostWays, List.map_map, List.map_map]
  apply List.map_congr_left
  rintro ⟨way, m⟩ h
  obtain ⟨i, rest, c, rfl, hc, hm⟩ := mem_locatedBelow_iff.1 h
  exact at?_cons_eq_some_iff.2 ⟨c, hc, (mem_located_iff.1 hm).1⟩

theorem pairwise_locatedBelow
    (h : ∀ c ∈ n.children, (c.located.map Prod.fst).Pairwise (· < ·)) :
    (n.locatedBelow.map Prod.fst).Pairwise (· < ·) := by
  -- Ways into one child share the first step, and ways into two differ there.
  have hsteps : n.children.zipIdx.Pairwise fun s t => s.2 < t.2 := by
    rw [← List.pairwise_map, List.zipIdx_map_snd]
    exact List.pairwise_lt_range'
  rw [List.pairwise_map, locatedBelow, List.pairwise_flatMap]
  constructor
  · rintro ⟨c, i⟩ hc
    have hways := List.pairwise_map.1 (h c (List.fst_mem_of_mem_zipIdx hc))
    exact List.pairwise_map.2 (hways.imp fun hlt => List.cons_lt_cons_iff.2 (.inr ⟨rfl, hlt⟩))
  · refine hsteps.imp fun hlt s hs t ht => ?_
    obtain ⟨s, -, rfl⟩ := List.mem_map.1 hs
    obtain ⟨t, -, rfl⟩ := List.mem_map.1 ht
    exact List.cons_lt_cons_iff.2 (.inl hlt)

theorem pairwise_located (n : SourceNode) : (n.located.map Prod.fst).Pairwise (· < ·) := by
  induction n using induction_on_weight with
  | step n ih =>
    by_cases hn : n.isMarkup
    · rw [located_of_isMarkup hn]
      exact List.pairwise_singleton _ _
    · rw [located_eq_locatedBelow hn]
      exact pairwise_locatedBelow fun c hc => ih c (weight_lt_of_mem_children hc)

theorem LeadsToOutermost.antichain {v w : List Nat} (hv : n.LeadsToOutermost v)
    (hw : n.LeadsToOutermost w) (h : v <+: w) : v = w := by
  by_contra hne
  exact hw.uncovered v hv.proper h hne hv.markup

theorem exists_uncovered (h : n.LeadsToMarkup way) :
    ∃ w, w <+: way ∧ n.LeadsToMarkup w ∧ n.Uncovered w := by
  induction way generalizing n with
  | nil => exact ⟨[], List.prefix_rfl, h, n.uncovered_nil⟩
  | cons i way ih =>
    by_cases hn : n.isMarkup
    · exact ⟨[], List.nil_prefix, leadsToMarkup_nil_iff.2 hn, n.uncovered_nil⟩
    · obtain ⟨c, hc, hmarkup⟩ := leadsToMarkup_cons_iff.1 h
      obtain ⟨w, hprefix, hmarkup, huncovered⟩ := ih hmarkup
      exact ⟨i :: w, List.cons_prefix_cons.2 ⟨rfl, hprefix⟩,
        leadsToMarkup_cons_iff.2 ⟨c, hc, hmarkup⟩,
        uncovered_cons_iff.2 ⟨hn, (uncoveredBelow_cons_iff hc).2 huncovered⟩⟩

theorem exists_leadsToOutermost (hway : way ≠ []) (h : n.LeadsToMarkup way) :
    ∃ w, n.LeadsToOutermost w ∧ w <+: way := by
  obtain ⟨i, way, rfl⟩ := List.exists_cons_of_ne_nil hway
  obtain ⟨c, hc, hmarkup⟩ := leadsToMarkup_cons_iff.1 h
  obtain ⟨w, hprefix, hw⟩ := exists_uncovered hmarkup
  exact ⟨i :: w, leadsToOutermost_cons_iff.2 ⟨c, hc, hw⟩, List.cons_prefix_cons.2 ⟨rfl, hprefix⟩⟩

theorem existsUnique_outermostWay (hway : way ≠ []) (h : n.LeadsToMarkup way) :
    ∃! w, w ∈ n.outermostWays ∧ w <+: way := by
  simp only [mem_outermostWays_iff]
  obtain ⟨w, hw, hprefix⟩ := exists_leadsToOutermost hway h
  refine ⟨w, ⟨hw, hprefix⟩, ?_⟩
  rintro v ⟨hv, hprefix'⟩
  rcases List.prefix_or_prefix_of_prefix hprefix' hprefix with hvw | hwv
  · exact hv.antichain hw hvw
  · exact (hw.antichain hv hwv).symm

theorem sublist_flatMap_nodes (ns : List SourceNode) : ns.Sublist (ns.flatMap nodes) := by
  induction ns with
  | nil => exact List.Sublist.refl _
  | cons n ns ih =>
    rw [List.flatMap_cons, nodes_eq, List.cons_append]
    exact (ih.trans (List.sublist_append_right _ _)).cons_cons n

theorem outermostMarkup_sublist (n : SourceNode) :
    n.outermostMarkup.Sublist (n.children.flatMap nodes) :=
  (sublist_flatMap_nodes _).trans (flatMap_nodes_collectMarkup #[] n.children)

theorem DistinctIds.nodup_outermostMarkup (h : n.DistinctIds) :
    (n.outermostMarkup.map SourceNode.id).Nodup := by
  unfold DistinctIds at h
  rw [nodes_eq, List.map_cons, List.nodup_cons] at h
  exact h.2.sublist (n.outermostMarkup_sublist.map SourceNode.id)

/-- The search ends after no more turns than there are nodes below the node. It finds some of these
nodes in source order, none of them twice: those at the ways that lead down to markup and come to
none before, in preorder. None of these ways goes on from another, and any way down to markup is
exactly one of them or goes on from it. -/
theorem outermostMarkup_complete (n : SourceNode) :
    collectWithin (n.children.flatMap nodes).length #[] n.children =
      some n.outermostMarkup.toArray ∧
    n.outermostMarkup.Sublist (n.children.flatMap nodes) ∧
    (n.DistinctIds → (n.outermostMarkup.map SourceNode.id).Nodup) ∧
    ∃ ways : List (List Nat), ways.map n.at? = n.outermostMarkup.map some ∧
      ways.Pairwise (· < ·) ∧ (∀ way, way ∈ ways ↔ n.LeadsToOutermost way) ∧
      (∀ v ∈ ways, ∀ w ∈ ways, v <+: w → v = w) ∧
      ∀ way, way ≠ [] → n.LeadsToMarkup way → ∃! w, w ∈ ways ∧ w <+: way := by
  refine ⟨?_, n.outermostMarkup_sublist, DistinctIds.nodup_outermostMarkup, n.outermostWays,
    n.map_at?_outermostWays, ?_, fun _ => mem_outermostWays_iff, ?_, ?_⟩
  · rw [collectWithin_eq (Nat.le_refl _), outermostMarkup, Array.toArray_toList]
  · exact pairwise_locatedBelow fun c _ => c.pairwise_located
  · intro v hv w hw
    exact (mem_outermostWays_iff.1 hv).antichain (mem_outermostWays_iff.1 hw)
  · exact fun way => existsUnique_outermostWay

/-- The element searched is markup itself and not found. Of the markup below it a fragment is found
in place of what the fragment holds. -/
theorem outermostMarkup_complete_nestedElement :
    Conversion.nestedElement.DistinctIds ∧ Conversion.nestedElement.LeadsToMarkup [1, 1] ∧
    Conversion.nestedElement.outermostMarkup.map SourceNode.id = [10, 27, 33] ∧
    (Conversion.nestedElement.outermostMarkup.map SourceNode.id).Nodup ∧
    ∃ ways : List (List Nat), ways.length = 3 ∧ ways.Pairwise (· < ·) ∧ [1] ∈ ways ∧
      [1, 1] ∉ ways ∧ ∃! w, w ∈ ways ∧ w <+: [1, 1] := by
  obtain ⟨hsearch, -, hdistinct, ways, hnodes, hsorted, hmem, hapart, hunique⟩ :=
    outermostMarkup_complete Conversion.nestedElement
  have distinct : Conversion.nestedElement.DistinctIds := by
    unfold DistinctIds
    decide
  have hmarkup : Conversion.nestedElement.LeadsToMarkup [1, 1] := ⟨_, rfl, by decide⟩
  have hfound : Conversion.nestedElement.outermostMarkup.map SourceNode.id = [10, 27, 33] := by
    have hids := congrArg (Option.map fun found => found.toList.map SourceNode.id) hsearch
    exact (Option.some.inj hids).symm
  have hlength : ways.length = 3 := by
    have hcount := congrArg List.length hnodes
    rw [List.length_map, List.length_map] at hcount
    rw [hcount, ← List.length_map SourceNode.id, hfound]
    rfl
  have hfragment : [1] ∈ ways := by
    rw [hmem, leadsToOutermost_cons_iff]
    exact ⟨_, rfl, ⟨_, rfl, by decide⟩, uncovered_nil _⟩
  have hcovered : [1, 1] ∉ ways := by
    intro h
    have := hapart [1] hfragment [1, 1] h (by decide)
    cases this
  exact ⟨distinct, hmarkup, hfound, hdistinct distinct, ways, hlength, hsorted, hfragment, hcovered,
    hunique _ (by decide) hmarkup⟩

end MarkupAudit.SourceNode
