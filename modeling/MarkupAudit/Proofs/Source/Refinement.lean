import MarkupAudit.Proofs.Source.Tables

/-! The loop over a stack of tasks builds what the recursion converts. A node is built only after all
nodes that it depends on are held, and no later step takes away what is held. -/
namespace MarkupAudit.Conversion
open SourceNode

theorem run_append (bytes : Array UInt8) (t : Tables) (first second : List Task) :
    run bytes t (first ++ second) = (do run bytes (← run bytes t first) second) := by
  fun_induction run bytes t first with
  | case1 t => rfl
  | case2 t n stack e he =>
    rw [List.cons_append, run, he]
    rfl
  | case3 t n stack t' ht ih =>
    rw [List.cons_append, run, ht]
    exact ih
  | case4 t n stack e he =>
    rw [List.cons_append, run]
    split <;> rename_i h <;> rw [he] at h <;> cases h
    rfl
  | case5 t n stack deps hd ih =>
    rw [List.cons_append, run]
    split <;> rename_i h <;> rw [hd] at h <;> cases h
    rw [← ih, List.append_assoc, List.cons_append]

/-- A node is built after its dependencies, of which the last comes first. -/
theorem run_schedule {bytes : Array UInt8} {n : SourceNode} {deps : List SourceNode} (t : Tables)
    (h : n.dependencies = .ok deps) :
    run bytes t [.schedule n] =
      (do build bytes (← run bytes t (deps.reverse.map .schedule)) n) := by
  rw [run]
  split <;> rename_i h' <;> rw [h] at h' <;> cases h'
  rw [run_append]
  congr 1
  funext t'
  rw [run]
  cases build bytes t' n with
  | error e => rfl
  | ok t => exact run.eq_1 bytes t

section
variable {bytes : Array UInt8} {tree : SourceNode}

/-- Whether running some tasks, if that succeeds, ends with the given nodes held, and all that was
held before. -/
def Builds (bytes : Array UInt8) (tree : SourceNode) (tasks : List Task)
    (ns : List SourceNode) : Prop :=
  ∀ t t' : Tables, run bytes t tasks = .ok t' → (∀ n ∈ ns, t'.Holds bytes n) ∧
    ∀ m ∈ tree.nodes, t.Holds bytes m → t'.Holds bytes m

theorem builds_map_schedule {ns : List SourceNode} (hns : ∀ n ∈ ns, n ∈ tree.nodes)
    (h : ∀ n ∈ ns, Builds bytes tree [.schedule n] [n]) :
    Builds bytes tree (ns.map .schedule) ns := by
  induction ns with
  | nil =>
    intro t t' hrun
    rw [List.map_nil, run.eq_1] at hrun
    cases hrun
    exact ⟨List.forall_mem_nil _, fun _ _ hold => hold⟩
  | cons n ns ih =>
    intro t t' hrun
    rw [List.map_cons, ← List.singleton_append, run_append] at hrun
    obtain ⟨t₁, hrun₁, hrun₂⟩ := Outcome.bind_eq_ok_iff.1 hrun
    obtain ⟨hholds₁, hkeeps₁⟩ := h n List.mem_cons_self t t₁ hrun₁
    obtain ⟨hholds₂, hkeeps₂⟩ := ih (fun m hm => hns m (List.mem_cons_of_mem n hm))
      (fun m hm => h m (List.mem_cons_of_mem n hm)) t₁ t' hrun₂
    refine ⟨?_, fun m hm hold => hkeeps₂ m hm (hkeeps₁ m hm hold)⟩
    intro m hm
    rcases List.mem_cons.1 hm with rfl | hm
    · exact hkeeps₂ m (hns m List.mem_cons_self) (hholds₁ m List.mem_cons_self)
    · exact hholds₂ m hm

theorem exists_dependencies_of_run {n : SourceNode} {t t' : Tables}
    (h : run bytes t [.schedule n] = .ok t') : ∃ deps, n.dependencies = .ok deps := by
  rw [run] at h
  split at h
  · cases h
  · exact ⟨_, ‹_›⟩

theorem builds_schedule (distinct : tree.DistinctIds) {n : SourceNode} (hn : n ∈ tree.nodes) :
    Builds bytes tree [.schedule n] [n] := by
  induction n using induction_on_weight with
  | step n ih =>
    intro t t' hrun
    obtain ⟨deps, hdeps⟩ := exists_dependencies_of_run hrun
    have hbelow : ∀ d ∈ deps.reverse, d ∈ tree.nodes := fun d hd =>
      mem_nodes_trans (mem_nodes_of_mem_dependencies hdeps (List.mem_reverse.1 hd)) hn
    have hbuilds : Builds bytes tree (deps.reverse.map .schedule) deps.reverse := by
      apply builds_map_schedule hbelow
      intro d hd
      exact ih d (weight_lt_of_mem_dependencies hdeps (List.mem_reverse.1 hd)) (hbelow d hd)
    rw [run_schedule t hdeps] at hrun
    obtain ⟨t₁, hrun₁, hbuild⟩ := Outcome.bind_eq_ok_iff.1 hrun
    obtain ⟨hholds, hkeeps⟩ := hbuilds t t₁ hrun₁
    rw [build_eq hdeps fun d hd => hholds d (List.mem_reverse.2 hd)] at hbuild
    obtain ⟨c, hc, rfl⟩ := Outcome.map_eq_ok_iff.1 hbuild
    constructor
    · intro m hm
      rw [List.mem_singleton.1 hm]
      exact holds_enter_self t₁ hc
    · intro m hm hold
      exact holds_enter distinct hm hn hc (hkeeps m hm hold)

theorem recursion_of_convert (distinct : tree.DistinctIds) {roots : List SourceNode}
    {ns : List Node} (hroots : ∀ r ∈ roots, r ∈ tree.nodes ∧ r.isContainer)
    (h : convert bytes roots = .ok ns) : roots.mapM (nodeIn bytes) = .ok ns := by
  have hbuilds : Builds bytes tree (roots.map .schedule) roots :=
    builds_map_schedule (fun r hr => (hroots r hr).1) fun r hr =>
      builds_schedule distinct (hroots r hr).1
  obtain ⟨t, hrun, hnodes⟩ := Outcome.bind_eq_ok_iff.1 h
  obtain ⟨hholds, -⟩ := hbuilds {} t hrun
  rw [← hnodes]
  exact Outcome.mapM_congr fun r hr => (node_eq (hholds r hr) (hroots r hr).2).symm

def Completes (bytes : Array UInt8) (tree : SourceNode) (tasks : List Task)
    (ns : List SourceNode) : Prop :=
  ∀ t : Tables, ∃ t', run bytes t tasks = .ok t' ∧ (∀ n ∈ ns, t'.Holds bytes n) ∧
    ∀ m ∈ tree.nodes, t.Holds bytes m → t'.Holds bytes m

theorem completes_iff {tasks : List Task} {ns : List SourceNode} :
    Completes bytes tree tasks ns ↔
      (∀ t, ∃ t', run bytes t tasks = .ok t') ∧ Builds bytes tree tasks ns := by
  constructor
  · intro h
    refine ⟨fun t => (h t).imp fun _ h => h.1, ?_⟩
    intro t t' hrun
    obtain ⟨t'', hrun', h⟩ := h t
    cases hrun.symm.trans hrun'
    exact h
  · rintro ⟨hruns, hbuilds⟩ t
    obtain ⟨t', hrun⟩ := hruns t
    exact ⟨t', hrun, hbuilds t t' hrun⟩

theorem completes_map_schedule {ns : List SourceNode} (hns : ∀ n ∈ ns, n ∈ tree.nodes)
    (h : ∀ n ∈ ns, Completes bytes tree [.schedule n] [n]) :
    Completes bytes tree (ns.map .schedule) ns := by
  refine completes_iff.2 ⟨?_, builds_map_schedule hns fun n hn => (completes_iff.1 (h n hn)).2⟩
  clear hns
  induction ns with
  | nil => exact fun t => ⟨t, run.eq_1 bytes t⟩
  | cons n ns ih =>
    intro t
    obtain ⟨t₁, hrun₁, -⟩ := h n List.mem_cons_self t
    obtain ⟨t₂, hrun₂⟩ := ih (fun m hm => h m (List.mem_cons_of_mem n hm)) t₁
    exact ⟨t₂, by rw [List.map_cons, ← List.singleton_append, run_append, hrun₁]; exact hrun₂⟩

/-- Whether running some tasks fails, for the sake of a text at or below one of the given nodes. -/
def Stops (bytes : Array UInt8) (tasks : List Task) (ns : List SourceNode) : Prop :=
  ∀ t : Tables, ∃ e, run bytes t tasks = .error e ∧ ∃ n ∈ ns, FaultBelow bytes n e

/-- The first node that cannot be converted stops the run. -/
theorem stops_map_schedule {ns : List SourceNode}
    (h : ∀ n ∈ ns, Completes bytes tree [.schedule n] [n] ∨ Stops bytes [.schedule n] [n])
    (hstop : ∃ n ∈ ns, Stops bytes [.schedule n] [n]) : Stops bytes (ns.map .schedule) ns := by
  induction ns with
  | nil =>
    obtain ⟨n, hn, -⟩ := hstop
    cases hn
  | cons n ns ih =>
    intro t
    rw [List.map_cons, ← List.singleton_append, run_append]
    rcases h n List.mem_cons_self with hn | hn
    · obtain ⟨t', hrun, -⟩ := hn t
      have hrest : ∃ m ∈ ns, Stops bytes [.schedule m] [m] := by
        obtain ⟨m, hm, hms⟩ := hstop
        rcases List.mem_cons.1 hm with rfl | hm
        · obtain ⟨e, he, -⟩ := hms t
          rw [hrun] at he
          cases he
        · exact ⟨m, hm, hms⟩
      obtain ⟨e, he, m, hm, hfault⟩ := ih (fun m hm => h m (List.mem_cons_of_mem n hm)) hrest t'
      exact ⟨e, by rw [hrun]; exact he, m, List.mem_cons_of_mem n hm, hfault⟩
    · obtain ⟨e, he, m, hm, hfault⟩ := hn t
      rw [List.mem_singleton.1 hm] at hfault
      exact ⟨e, by rw [he]; rfl, n, List.mem_cons_self, hfault⟩

section
variable (distinct : tree.DistinctIds) (named : tree.AttributesNamed)
include distinct named

theorem completes_schedule {n : SourceNode} (hn : n ∈ tree.nodes) {c : Converted}
    (hc : n.convertedIn bytes = .ok c) : Completes bytes tree [.schedule n] [n] := by
  induction n using induction_on_weight generalizing c with
  | step n ih =>
    obtain ⟨deps, hdeps⟩ := exists_dependencies (named.below hn)
    have hbelow : ∀ d ∈ deps.reverse, d ∈ tree.nodes := fun d hd =>
      mem_nodes_trans (mem_nodes_of_mem_dependencies hdeps (List.mem_reverse.1 hd)) hn
    have hcompletes : Completes bytes tree (deps.reverse.map .schedule) deps.reverse := by
      apply completes_map_schedule hbelow
      intro d hd
      have hmem := List.mem_reverse.1 hd
      obtain ⟨c', hc'⟩ := exists_convertedIn_of_mem_dependencies hc hdeps hmem
      exact ih d (weight_lt_of_mem_dependencies hdeps hmem) (hbelow d hd) hc'
    refine completes_iff.2 ⟨?_, builds_schedule distinct hn⟩
    intro t
    obtain ⟨t', hrun, hholds, -⟩ := hcompletes t
    refine ⟨t'.enter n c, ?_⟩
    rw [run_schedule t hdeps, hrun]
    dsimp only [bind, Except.bind]
    rw [build_eq hdeps fun d hd => hholds d (List.mem_reverse.2 hd), hc]
    rfl

theorem stops_schedule {n : SourceNode} (hn : n ∈ tree.nodes) {e : ConversionFailure}
    (he : n.convertedIn bytes = .error e) : Stops bytes [.schedule n] [n] := by
  induction n using induction_on_weight generalizing e with
  | step n ih =>
    obtain ⟨deps, hdeps⟩ := exists_dependencies (named.below hn)
    have hbelow : ∀ d ∈ deps.reverse, d ∈ tree.nodes := fun d hd =>
      mem_nodes_trans (mem_nodes_of_mem_dependencies hdeps (List.mem_reverse.1 hd)) hn
    have hcases : ∀ d ∈ deps.reverse,
        Completes bytes tree [.schedule d] [d] ∨ Stops bytes [.schedule d] [d] := by
      intro d hd
      cases hc : d.convertedIn bytes with
      | ok c => exact .inl (completes_schedule distinct named (hbelow d hd) hc)
      | error e' =>
        have hlt := weight_lt_of_mem_dependencies hdeps (List.mem_reverse.1 hd)
        exact .inr (ih d hlt (hbelow d hd) hc)
    intro t
    rw [run_schedule t hdeps]
    by_cases hstop : ∃ d ∈ deps.reverse, Stops bytes [.schedule d] [d]
    · obtain ⟨e', he', d, hd, hfault⟩ := stops_map_schedule hcases hstop t
      have hd := mem_nodes_of_mem_dependencies hdeps (List.mem_reverse.1 hd)
      exact ⟨e', by rw [he']; rfl, n, List.mem_singleton_self n, hfault.trans hd⟩
    · have hall : ∀ d ∈ deps.reverse, Completes bytes tree [.schedule d] [d] := fun d hd =>
        (hcases d hd).resolve_right fun hs => hstop ⟨d, hd, hs⟩
      obtain ⟨t', hrun, hholds, -⟩ := completes_map_schedule hbelow hall t
      have hbuild : build bytes t' n = .error e := by
        rw [build_eq hdeps fun d hd => hholds d (List.mem_reverse.2 hd), he]
        rfl
      exact ⟨e, by rw [hrun]; exact hbuild, n, List.mem_singleton_self n,
        faultBelow_of_convertedIn (named.below hn) he⟩

theorem convert_eq_of_recursion {roots : List SourceNode} {ns : List Node}
    (hroots : ∀ r ∈ roots, r ∈ tree.nodes ∧ r.isContainer)
    (h : roots.mapM (nodeIn bytes) = .ok ns) : convert bytes roots = .ok ns := by
  have hcompletes : Completes bytes tree (roots.map .schedule) roots := by
    apply completes_map_schedule fun r hr => (hroots r hr).1
    intro r hr
    have hnode := Outcome.exists_mapM_eq_ok_iff.1 ⟨ns, h⟩ r hr
    obtain ⟨c, hc⟩ := (exists_convertedIn_iff (hroots r hr).2).2 hnode
    exact completes_schedule distinct named (hroots r hr).1 hc
  obtain ⟨t, hrun, hholds, -⟩ := hcompletes {}
  rw [convert, hrun, ← h]
  exact Outcome.mapM_congr fun r hr => node_eq (hholds r hr) (hroots r hr).2

theorem convert_fails_of_recursion {roots : List SourceNode} {e : ConversionFailure}
    (hroots : ∀ r ∈ roots, r ∈ tree.nodes ∧ r.isContainer)
    (h : roots.mapM (nodeIn bytes) = .error e) :
    ∃ e', convert bytes roots = .error e' ∧ ∃ r ∈ roots, FaultBelow bytes r e' := by
  have hstops : ∀ r ∈ roots, ∀ e, r.nodeIn bytes = .error e → Stops bytes [.schedule r] [r] := by
    intro r hr e he
    cases hc : r.convertedIn bytes with
    | ok c =>
      obtain ⟨m, hm⟩ := (exists_convertedIn_iff (hroots r hr).2).1 ⟨c, hc⟩
      rw [he] at hm
      cases hm
    | error e' => exact stops_schedule distinct named (hroots r hr).1 hc
  have hcases : ∀ r ∈ roots,
      Completes bytes tree [.schedule r] [r] ∨ Stops bytes [.schedule r] [r] := by
    intro r hr
    cases hm : r.nodeIn bytes with
    | ok m =>
      obtain ⟨c, hc⟩ := (exists_convertedIn_iff (hroots r hr).2).2 ⟨m, hm⟩
      exact .inl (completes_schedule distinct named (hroots r hr).1 hc)
    | error e' => exact .inr (hstops r hr e' hm)
  obtain ⟨r, hr, he⟩ := Outcome.exists_error_of_mapM h
  obtain ⟨e', hrun, hfault⟩ := stops_map_schedule hcases ⟨r, hr, hstops r hr e he⟩ {}
  exact ⟨e', by rw [convert, hrun]; rfl, hfault⟩

/-- The loop gives the same markup as the recursion. Where it fails, a node at or below a root spans
bytes that are not a text; no look-up in the tables goes wrong. -/
theorem convert_eq_recursion {roots : List SourceNode}
    (hroots : ∀ r ∈ roots, r ∈ tree.nodes ∧ r.isContainer) :
    (∀ ns, convert bytes roots = .ok ns ↔ roots.mapM (nodeIn bytes) = .ok ns) ∧
    ∀ e, convert bytes roots = .error e →
      (∃ fault, e = .undecodable fault) ∧
        ∃ r ∈ roots, ∃ m ∈ r.nodes, m.textIn bytes = .error e := by
  cases h : roots.mapM (nodeIn bytes) with
  | ok ns =>
    have hconvert := convert_eq_of_recursion distinct named hroots h
    rw [hconvert]
    refine ⟨fun _ => Iff.rfl, ?_⟩
    intro e he
    cases he
  | error e =>
    obtain ⟨e', he', r, hr, hfault⟩ := convert_fails_of_recursion distinct named hroots h
    rw [he']
    constructor
    · intro ns
      constructor <;> intro hns <;> cases hns
    · intro e'' he''
      cases he''
      exact ⟨hfault.eq_undecodable, r, hr, hfault⟩

end

end

def token (id start : Nat) (text : String) : SourceNode :=
  { id := id, kind := text, start := start, stop := start + text.length, named := false }

def quotedAttribute : SourceNode :=
  ⟨15, "jsx_attribute", 13, 18, true, some "attribute", false, false, [
    ⟨16, "property_identifier", 13, 14, true, none, false, false, []⟩,
    token 17 14 "=",
    ⟨18, "string", 15, 18, true, none, false, false, [
      token 19 15 "\"",
      ⟨20, "string_fragment", 16, 17, true, none, false, false, []⟩,
      token 21 17 "\""]⟩]⟩

def bracedAttribute : SourceNode :=
  ⟨22, "jsx_attribute", 19, 27, true, some "attribute", false, false, [
    ⟨23, "property_identifier", 19, 20, true, none, false, false, []⟩,
    token 24 20 "=",
    ⟨25, "jsx_expression", 21, 27, true, none, false, false, [
      token 26 21 "\x7b",
      ⟨27, "jsx_self_closing_element", 22, 26, true, none, false, false, [
        token 28 22 "<",
        ⟨29, "identifier", 23, 24, true, some "name", false, false, []⟩,
        token 30 24 "/>"]⟩,
      token 31 26 "\x7d"]⟩]⟩

def nestedTag : SourceNode :=
  ⟨3, "jsx_opening_element", 0, 28, true, some "open_tag", false, false, [
    token 4 0 "<",
    ⟨5, "identifier", 1, 2, true, some "name", false, false, []⟩,
    ⟨6, "jsx_expression", 3, 12, true, some "attribute", false, false, [
      token 7 3 "\x7b",
      ⟨8, "spread_element", 4, 11, true, none, false, false, [
        token 9 4 "...",
        ⟨10, "jsx_self_closing_element", 7, 11, true, none, false, false, [
          token 11 7 "<",
          ⟨12, "identifier", 8, 9, true, some "name", false, false, []⟩,
          token 13 9 "/>"]⟩]⟩,
      token 14 11 "\x7d"]⟩,
    quotedAttribute,
    bracedAttribute,
    token 32 27 ">"]⟩

def namelessTag : SourceNode :=
  ⟨34, "jsx_opening_element", 28, 30, true, some "open_tag", false, false, [
    token 35 28 "<",
    token 36 29 ">"]⟩

def nestedFragment : SourceNode :=
  ⟨33, "jsx_element", 28, 37, true, none, false, false, [
    namelessTag,
    ⟨37, "jsx_self_closing_element", 30, 34, true, none, false, false, [
      token 38 30 "<",
      ⟨39, "identifier", 31, 32, true, some "name", false, false, []⟩,
      token 40 32 "/>"]⟩,
    ⟨41, "jsx_closing_element", 34, 37, true, some "close_tag", false, false, [
      token 42 34 "</",
      token 43 36 ">"]⟩]⟩

def nestedElement : SourceNode :=
  ⟨2, "jsx_element", 0, 41, true, none, false, false, [
    nestedTag,
    nestedFragment,
    ⟨44, "jsx_closing_element", 37, 41, true, some "close_tag", false, false, [
      token 45 37 "</",
      ⟨46, "identifier", 39, 40, true, some "name", false, false, []⟩,
      token 47 40 ">"]⟩]⟩

def nestedText : String :=
  "<a \x7b...<u/>\x7d b=\"x\" c=\x7b<i/>\x7d><><b/></></a>"

def nestedMarkup : SourceNode :=
  ⟨0, "program", 0, 41, true, none, false, false, [
    ⟨1, "expression_statement", 0, 41, true, none, false, false, [nestedElement]⟩]⟩

def nestedRoots : List SourceNode :=
  nestedMarkup.nodes.filter isContainer

theorem convert_nestedRoots :
    nestedMarkup.DistinctIds ∧ nestedMarkup.AttributesNamed ∧
    (∀ r ∈ nestedRoots, r ∈ nestedMarkup.nodes ∧ r.isContainer) ∧
    (∀ ns, convert (Text.Utf8.bytesOf nestedText) nestedRoots = .ok ns ↔
      nestedRoots.mapM (nodeIn (Text.Utf8.bytesOf nestedText)) = .ok ns) ∧
    ∀ e, convert (Text.Utf8.bytesOf nestedText) nestedRoots = .error e →
      (∃ fault, e = .undecodable fault) ∧
        ∃ r ∈ nestedRoots, ∃ m ∈ r.nodes,
          m.textIn (Text.Utf8.bytesOf nestedText) = .error e := by
  have distinct : nestedMarkup.DistinctIds := by
    unfold DistinctIds
    decide
  have named : nestedMarkup.AttributesNamed := by
    unfold AttributesNamed
    decide
  have hroots : ∀ r ∈ nestedRoots, r ∈ nestedMarkup.nodes ∧ r.isContainer :=
    fun _ hr => List.mem_filter.1 hr
  exact ⟨distinct, named, hroots, convert_eq_recursion distinct named hroots⟩

end MarkupAudit.Conversion
