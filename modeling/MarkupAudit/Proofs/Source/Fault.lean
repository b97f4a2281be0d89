import MarkupAudit.Proofs.Source.Nodes
import MarkupAudit.Proofs.Source.Parse

/-! The first fault of a source. Where every node says rightly whether there is a fault at or below
it, the search that passes over sound nodes finds what a search of all nodes in source order finds,
and a source is refused at that node before any of it is converted. -/
namespace MarkupAudit

namespace SourceNode

/-- Whether every node of a tree is marked as holding a fault exactly when it is one or a child of
it is marked so. -/
def FaultsMarked (tree : SourceNode) : Prop :=
  ∀ n ∈ tree.nodes, n.hasError ↔ n.isFault ∨ ∃ c ∈ n.children, c.hasError

theorem FaultsMarked.child {c n : SourceNode} (h : n.FaultsMarked) (hc : c ∈ n.children) :
    c.FaultsMarked :=
  fun m hm => h m (mem_nodes_trans hm (mem_nodes_of_mem_children hc))

theorem FaultsMarked.hasError_iff {n : SourceNode} (h : n.FaultsMarked) :
    n.hasError ↔ ∃ m ∈ n.nodes, m.isFault := by
  induction n using induction_on_weight with
  | step n ih =>
    have hchild : ∀ c ∈ n.children, (c.hasError ↔ ∃ m ∈ c.nodes, m.isFault) := fun c hc =>
      ih c (weight_lt_of_mem_children hc) (h.child hc)
    rw [h n n.mem_nodes_self]
    constructor
    · rintro (hn | ⟨c, hc, hmark⟩)
      · exact ⟨n, n.mem_nodes_self, hn⟩
      · obtain ⟨m, hm, hfault⟩ := (hchild c hc).1 hmark
        exact ⟨m, mem_nodes_iff.2 (.inr ⟨c, hc, hm⟩), hfault⟩
    · rintro ⟨m, hm, hfault⟩
      rcases mem_nodes_iff.1 hm with rfl | ⟨c, hc, hmc⟩
      · exact .inl hfault
      · exact .inr ⟨c, hc, (hchild c hc).2 ⟨m, hmc, hfault⟩⟩

/-- The invariant of the search: what is left on the stack holds the first fault. -/
theorem searchFault_eq_find? {stack : List SourceNode} (h : ∀ n ∈ stack, n.FaultsMarked) :
    searchFault stack = (stack.flatMap nodes).find? isFault := by
  fun_induction searchFault stack with
  | case1 => rfl
  | case2 n stack hn =>
    rw [List.flatMap_cons, n.nodes_eq, List.cons_append, List.find?_cons_of_pos hn]
  | case3 n stack hn hmark ih =>
    have hbelow : ∀ m ∈ n.children ++ stack, m.FaultsMarked := by
      intro m hm
      rcases List.mem_append.1 hm with hm | hm
      · exact (h n List.mem_cons_self).child hm
      · exact h m (List.mem_cons_of_mem n hm)
    rw [ih hbelow, List.flatMap_cons, n.nodes_eq, List.cons_append, List.find?_cons_of_neg hn,
      List.flatMap_append]
  | case4 n stack hn hmark ih =>
    have hsound : n.nodes.find? isFault = none := by
      rw [List.find?_eq_none]
      intro m hm hfault
      exact hmark ((h n List.mem_cons_self).hasError_iff.2 ⟨m, hm, hfault⟩)
    rw [ih fun m hm => h m (List.mem_cons_of_mem n hm), List.flatMap_cons, List.find?_append,
      hsound, Option.none_or]

theorem FaultsMarked.firstFault_eq {tree : SourceNode} (h : tree.FaultsMarked) :
    tree.firstFault = tree.nodes.find? isFault := by
  rw [firstFault, searchFault_eq_find? (List.forall_mem_singleton.2 h), List.flatMap_singleton]

end SourceNode

/-- The markup of a source whose tree is given, by any conversion of its outermost markup. -/
def Document.ofTreeBy (convert : List SourceNode → Except ConversionFailure (List Node))
    (bytes : Array UInt8) (tree : SourceNode) : Except ParseFailure Document :=
  if tree.hasError then
    .error (.input (.malformed (tree.firstFault.map fun n => Text.positionAt bytes n.start)))
  else
    match convert tree.outermostMarkup with
    | .ok children => .ok ⟨children⟩
    | .error e => .error (.conversion e)

theorem Document.ofTree_eq_ofTreeBy (bytes : Array UInt8) (tree : SourceNode) :
    ofTree bytes tree = ofTreeBy (Conversion.convert bytes) bytes tree :=
  rfl

theorem Document.ofTreeBy_of_fault {tree n : SourceNode} (marked : tree.FaultsMarked)
    (hn : tree.nodes.find? SourceNode.isFault = some n) (bytes : Array UInt8)
    (convert : List SourceNode → Except ConversionFailure (List Node)) :
    ofTreeBy convert bytes tree =
      .error (.input (.malformed (some (Text.positionAt bytes n.start)))) := by
  have hmark : tree.hasError :=
    marked.hasError_iff.2 ⟨n, List.mem_of_find?_eq_some hn, List.find?_some hn⟩
  rw [ofTreeBy, if_pos hmark, marked.firstFault_eq, hn, Option.map_some]

/-- A source is refused exactly when some node of its tree is a fault. The error carries the place
of the first fault in source order, its message names that place, and no way to convert the tree
plays a part in it. -/
theorem parseSource_firstFault {grammar : Grammar} {source : String} {tree : SourceNode}
    (parsed : grammar source = some tree) (marked : tree.FaultsMarked) :
    tree.firstFault = tree.nodes.find? SourceNode.isFault ∧
    ((∃ e, (parseSource grammar source).value = .error (.input e)) ↔
      ∃ n ∈ tree.nodes, n.isFault) ∧
    ∀ e, (parseSource grammar source).value = .error (.input e) →
      ∃ n line column, tree.nodes.find? SourceNode.isFault = some n ∧
        Text.positionAt (Text.Utf8.bytesOf source) n.start = ⟨line, column⟩ ∧
        e.position? = some ⟨line, column⟩ ∧
        e.message = "Syntax error at line " ++ toString line ++ ", column " ++ toString column ∧
        (parseSource grammar source).records = [] ∧
        ∀ convert, Document.ofTreeBy convert (Text.Utf8.bytesOf source) tree =
          .error (.input e) := by
  have hrefused : ∀ n, tree.nodes.find? SourceNode.isFault = some n →
      parseSource grammar source = ⟨.error (.input (.malformed (some
        (Text.positionAt (Text.Utf8.bytesOf source) n.start)))), []⟩ := by
    intro n hn
    apply parseSource_of_ofTree_error parsed
    rw [Document.ofTree_eq_ofTreeBy]
    exact Document.ofTreeBy_of_fault marked hn _ _
  have hfirst : (∃ e, (parseSource grammar source).value = .error (.input e)) →
      ∃ n, tree.nodes.find? SourceNode.isFault = some n := by
    rintro ⟨e, he⟩
    rw [← Option.isSome_iff_exists, List.find?_isSome]
    by_contra hsound
    push Not at hsound
    have hmark : ¬tree.hasError := by
      rw [marked.hasError_iff]
      rintro ⟨m, hm, hfault⟩
      exact hsound m hm hfault
    rw [value_parseSource parsed] at he
    obtain ⟨failure, hfailure⟩ := conversion_of_ofTree_error (by simpa using hmark) he
    cases hfailure
  refine ⟨marked.firstFault_eq, ⟨?_, ?_⟩, ?_⟩
  · intro hrefusal
    obtain ⟨n, hn⟩ := hfirst hrefusal
    exact ⟨n, List.mem_of_find?_eq_some hn, List.find?_some hn⟩
  · rintro ⟨n, hn, hfault⟩
    obtain ⟨m, hm⟩ := Option.isSome_iff_exists.1 (List.find?_isSome.2 ⟨n, hn, hfault⟩)
    rw [hrefused m hm]
    exact ⟨_, rfl⟩
  · intro e he
    obtain ⟨n, hn⟩ := hfirst ⟨e, he⟩
    rw [hrefused n hn] at he ⊢
    cases he
    exact ⟨n, _, _, hn, rfl, rfl, rfl, rfl, Document.ofTreeBy_of_fault marked hn _⟩

def unclosedText : String :=
  "é;\nü<p"

def missingNode : SourceNode :=
  ⟨8, ">", 8, 8, false, none, true, true, []⟩

/-- The tree of `unclosedText`: a sound statement, a tag that does not end, and an error that holds
another one. -/
def unclosedMarkup : SourceNode :=
  ⟨0, "program", 0, 8, true, none, false, true, [
    ⟨1, "expression_statement", 0, 3, true, none, false, false, [
      ⟨2, "identifier", 0, 2, true, none, false, false, []⟩,
      ⟨3, ";", 2, 3, false, none, false, false, []⟩]⟩,
    ⟨4, "jsx_element", 4, 8, true, none, false, true, [
      ⟨5, "jsx_opening_element", 6, 8, true, some "open_tag", false, true, [
        ⟨6, "<", 6, 7, false, none, false, false, []⟩,
        ⟨7, "identifier", 7, 8, true, some "name", false, false, []⟩,
        missingNode]⟩]⟩,
    ⟨9, "ERROR", 4, 8, true, none, false, true, [
      ⟨10, "ERROR", 4, 6, true, none, false, true, []⟩]⟩]⟩

theorem unclosedMarkup_faultsMarked : unclosedMarkup.FaultsMarked := by
  unfold SourceNode.FaultsMarked
  decide

/-- The first fault in source order is the last one by its place: the errors after it start before
it. -/
theorem parseSource_unclosedText :
    unclosedMarkup.FaultsMarked ∧ unclosedMarkup.firstFault = some missingNode ∧
    ∃ e, (parseSource (fun _ => some unclosedMarkup) unclosedText).value = .error (.input e) ∧
      e.position? = some ⟨2, 4⟩ ∧ e.message = "Syntax error at line 2, column 4" ∧
      ∀ convert, Document.ofTreeBy convert (Text.Utf8.bytesOf unclosedText) unclosedMarkup =
        .error (.input e) := by
  have hfind : unclosedMarkup.nodes.find? SourceNode.isFault = some missingNode := rfl
  have hplace : Text.positionAt (Text.Utf8.bytesOf unclosedText) missingNode.start = ⟨2, 4⟩ := by
    decide +kernel
  obtain ⟨hsearch, hiff, herror⟩ :=
    @parseSource_firstFault (fun _ => some unclosedMarkup) unclosedText unclosedMarkup rfl
      unclosedMarkup_faultsMarked
  obtain ⟨e, he⟩ := hiff.2 ⟨missingNode, List.mem_of_find?_eq_some hfind, rfl⟩
  obtain ⟨n, line, column, hn, hposition, hcarried, hmessage, -, hany⟩ := herror e he
  rw [hfind] at hn hsearch
  cases hn
  rw [hplace] at hposition
  cases hposition
  exact ⟨unclosedMarkup_faultsMarked, hsearch, e, he, hcarried, hmessage, hany⟩

end MarkupAudit
