import Mathlib.Algebra.Ring.Nat
import Mathlib.Data.List.Induction
import Mathlib.Data.List.Nodup
import MarkupAudit.Audit.Result

/-! What a tally holds after any calls, and what its counts are worth: every count lists the keys that
occur, each once and in the order in which they first did, with the number of violations that carry
it. -/
namespace MarkupAudit

theorem bump_cases (key : String) (counts : List (String × Nat)) :
    (∃ before n after, counts = before ++ (key, n) :: after ∧
      bump key counts = before ++ (key, n + 1) :: after) ∨
    (key ∉ counts.map Prod.fst ∧ bump key counts = counts ++ [(key, 1)]) := by
  induction counts with
  | nil => exact .inr ⟨List.not_mem_nil, rfl⟩
  | cons first rest ih =>
    obtain ⟨k, n⟩ := first
    unfold bump
    split
    · subst k
      exact .inl ⟨[], n, rest, rfl, rfl⟩
    · rename_i hne
      rcases ih with ⟨before, m, after, rfl, hbump⟩ | ⟨hnew, hbump⟩
      · exact .inl ⟨(k, n) :: before, m, after, rfl, congrArg ((k, n) :: ·) hbump⟩
      · refine .inr ⟨?_, congrArg ((k, n) :: ·) hbump⟩
        rw [List.map_cons, List.mem_cons, not_or]
        exact ⟨Ne.symm hne, hnew⟩

/-- Whether a list is that of the keys that occur, each of them once and where it first occurs. -/
structure Occurring (keys listed : List String) : Prop where
  distinct : listed.Nodup
  mem_iff : ∀ key, key ∈ listed ↔ key ∈ keys
  ordered : listed.Pairwise fun k k' => keys.idxOf k < keys.idxOf k'

/-- Whether keys are counted right: those that occur are listed, with how often they do. -/
structure CountOf (keys : List String) (counts : List (String × Nat)) : Prop where
  listed : Occurring keys (counts.map Prod.fst)
  times : ∀ entry ∈ counts, entry.2 = keys.count entry.1
  positive : ∀ entry ∈ counts, 0 < entry.2
  total : (counts.map Prod.snd).sum = keys.length

variable {key : String} {keys listed : List String} {counts : List (String × Nat)}

theorem Occurring.known (h : Occurring keys listed) (hkey : key ∈ listed) :
    Occurring (keys ++ [key]) listed where
  distinct := h.distinct
  mem_iff k := by
    rw [h.mem_iff, List.mem_append, List.mem_singleton]
    exact ⟨.inl, fun hk => hk.elim id fun heq => heq ▸ (h.mem_iff key).1 hkey⟩
  ordered := h.ordered.imp_of_mem fun {k k'} hk hk' hlt => by
    rwa [List.idxOf_append_of_mem ((h.mem_iff k).1 hk),
      List.idxOf_append_of_mem ((h.mem_iff k').1 hk')]

theorem Occurring.new (h : Occurring keys listed) (hkey : key ∉ listed) :
    Occurring (keys ++ [key]) (listed ++ [key]) where
  distinct := List.nodup_append_comm.1 (List.nodup_cons.2 ⟨hkey, h.distinct⟩)
  mem_iff k := by
    rw [List.mem_append, List.mem_append, h.mem_iff]
  ordered := by
    have hlast : (keys ++ [key]).idxOf key = keys.length := by
      rw [List.idxOf_append_of_notMem (mt (h.mem_iff key).2 hkey)]
      simp
    rw [List.pairwise_append]
    refine ⟨?_, List.pairwise_singleton _ _, ?_⟩
    · refine h.ordered.imp_of_mem fun {k k'} hk hk' hlt => ?_
      rwa [List.idxOf_append_of_mem ((h.mem_iff k).1 hk),
        List.idxOf_append_of_mem ((h.mem_iff k').1 hk')]
    · intro k hk k' hk'
      obtain rfl := List.mem_singleton.1 hk'
      rw [List.idxOf_append_of_mem ((h.mem_iff k).1 hk), hlast]
      exact List.idxOf_lt_length_of_mem ((h.mem_iff k).1 hk)

theorem times_concat {entries : List (String × Nat)} (h : ∀ e ∈ entries, e.2 = keys.count e.1)
    (hkey : key ∉ entries.map Prod.fst) : ∀ e ∈ entries, e.2 = (keys ++ [key]).count e.1 := by
  intro e he
  have hne : e.1 ≠ key := fun heq => hkey (heq ▸ List.mem_map_of_mem he)
  rw [List.count_append, List.count_eq_zero_of_not_mem (mt List.mem_singleton.1 hne), Nat.add_zero]
  exact h e he

theorem countOf_nil : CountOf [] [] where
  listed := ⟨List.nodup_nil, fun _ => Iff.rfl, List.Pairwise.nil⟩
  times := List.forall_mem_nil _
  positive := List.forall_mem_nil _
  total := rfl

theorem CountOf.known {before after : List (String × Nat)} {n : Nat}
    (h : CountOf keys (before ++ (key, n) :: after)) :
    CountOf (keys ++ [key]) (before ++ (key, n + 1) :: after) := by
  obtain ⟨hlisted, htimes, hpositive, htotal⟩ := h
  simp only [List.map_append, List.map_cons] at hlisted
  simp only [List.forall_mem_append, List.forall_mem_cons] at htimes hpositive
  have hothers := hlisted.distinct
  rw [List.nodup_middle, List.nodup_cons, List.mem_append, not_or] at hothers
  refine ⟨?_, ?_, ?_, ?_⟩
  · simp only [List.map_append, List.map_cons]
    exact hlisted.known List.mem_append_cons_self
  · simp only [List.forall_mem_append, List.forall_mem_cons]
    refine ⟨times_concat htimes.1 hothers.1.1, ?_, times_concat htimes.2.2 hothers.1.2⟩
    rw [List.count_append, List.count_singleton_self, htimes.2.1]
  · simp only [List.forall_mem_append, List.forall_mem_cons]
    exact ⟨hpositive.1, Nat.succ_pos n, hpositive.2.2⟩
  · simp only [List.map_append, List.map_cons, List.sum_append, List.sum_cons, List.length_append,
      List.length_singleton] at htotal ⊢
    omega

theorem CountOf.new (h : CountOf keys counts) (hkey : key ∉ counts.map Prod.fst) :
    CountOf (keys ++ [key]) (counts ++ [(key, 1)]) where
  listed := by
    rw [List.map_append]
    exact h.listed.new hkey
  times := by
    rw [List.forall_mem_append, List.forall_mem_singleton]
    refine ⟨times_concat h.times hkey, ?_⟩
    rw [List.count_append, List.count_singleton_self,
      List.count_eq_zero_of_not_mem (mt (h.listed.mem_iff key).2 hkey)]
  positive := by
    rw [List.forall_mem_append, List.forall_mem_singleton]
    exact ⟨h.positive, Nat.one_pos⟩
  total := by
    rw [List.map_append, List.sum_append, h.total, List.length_append]
    rfl

theorem CountOf.bump (h : CountOf keys counts) (key : String) :
    CountOf (keys ++ [key]) (bump key counts) := by
  rcases bump_cases key counts with ⟨before, n, after, rfl, hbump⟩ | ⟨hnew, hbump⟩
  · rw [hbump]
    exact h.known
  · rw [hbump]
    exact h.new hnew

theorem countOf_countKeys (keys : List String) : CountOf keys (countKeys keys) := by
  induction keys using List.reverseRecOn with
  | nil => exact countOf_nil
  | append_singleton keys key ih =>
    rw [countKeys, List.foldl_append]
    exact ih.bump key

namespace Tally

inductive Call where
  | add (v : Violation)
  | extend (vs : List Violation)
  deriving DecidableEq, Repr

def Call.given : Call → List Violation
  | add v => [v]
  | extend vs => vs

def Call.apply (t : Tally) : Call → Tally
  | add v => t.add v
  | extend vs => t.extend vs

/-- A tally that was empty, after some calls. -/
def after (calls : List Call) : Tally :=
  calls.foldl Call.apply .empty

theorem violations_apply (t : Tally) (call : Call) :
    (call.apply t).violations = t.violations ++ call.given := by
  cases call with
  | add v => exact t.violations_add v
  | extend vs => exact t.violations_extend vs

theorem violations_after (calls : List Call) :
    (after calls).violations = calls.flatMap Call.given := by
  induction calls using List.reverseRecOn with
  | nil => rfl
  | append_singleton calls call ih =>
    rw [after, List.foldl_append, List.flatMap_append, List.flatMap_singleton, ← ih]
    exact violations_apply _ call

theorem violations_inj {s t : Tally} : s.violations = t.violations ↔ s = t := by
  constructor
  · intro h
    cases s
    cases t
    exact congrArg Tally.mk (Array.toList_inj.1 h)
  · exact congrArg violations

theorem sum_countKeys (t : Tally) (key : Violation → String) :
    ((countKeys (t.violations.map key)).map Prod.snd).sum = t.size := by
  rw [(countOf_countKeys _).total, List.length_map, size_eq]

/-- After any calls a tally holds all that they were given, in order, and no matter how it was shared
out among the calls. Its size is the number of violations, and each of its counts is right and adds
up to that number. -/
theorem after_counted (calls : List Call) :
    (after calls).violations = calls.flatMap Call.given ∧
    (∀ calls', after calls = after calls' ↔
      calls.flatMap Call.given = calls'.flatMap Call.given) ∧
    (after calls).size = (after calls).violations.length ∧
    (CountOf ((after calls).violations.map Violation.severity) (after calls).countBySeverity ∧
      ((after calls).countBySeverity.map Prod.snd).sum = (after calls).size) ∧
    (CountOf ((after calls).violations.map Violation.category) (after calls).countByCategory ∧
      ((after calls).countByCategory.map Prod.snd).sum = (after calls).size) ∧
    CountOf ((after calls).violations.map Violation.name) (after calls).countByRule ∧
      ((after calls).countByRule.map Prod.snd).sum = (after calls).size := by
  refine ⟨violations_after calls, fun calls' => ?_, size_eq _, ?_, ?_, ?_⟩
  · rw [← violations_inj, violations_after, violations_after]
  · exact ⟨countOf_countKeys _, sum_countKeys _ _⟩
  · exact ⟨countOf_countKeys _, sum_countKeys _ _⟩
  · exact ⟨countOf_countKeys _, sum_countKeys _ _⟩

/-- A key that occurs again is counted where it stands. -/
example (v w : Violation) (hv : v.severity = "warn") (hw : w.severity = "error") :
    (after [.add v, .extend [w, v]]).countBySeverity = [("warn", 2), ("error", 1)] := by
  simp [countBySeverity, violations_after, Call.given, countKeys, bump, hv, hw]

end Tally

end MarkupAudit
