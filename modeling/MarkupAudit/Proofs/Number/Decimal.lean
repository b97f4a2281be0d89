import Mathlib.Data.List.Basic
import Std.Data.String.ToInt
import MarkupAudit.Number.Double

/-! How numbers are written. An integer is told by its text, also where a blank and more come after
it. Of letters the text of a number has none but the mark of an exponent, unless it is no finite
one. -/
namespace MarkupAudit

theorem isDigit_or_eq_minus_of_mem_toString {c : Char} {s : Int} (h : c ∈ (toString s).toList) :
    c.isDigit ∨ c = '-' := by
  have hdigits (n : Nat) (hc : c ∈ n.repr.toList) : c.isDigit := by
    rw [Nat.toList_repr] at hc
    exact Nat.isDigit_of_mem_toDigits (by decide) (by decide) hc
  rw [Int.toString_eq_repr, Int.repr_eq_if] at h
  split at h
  · exact .inl (hdigits _ h)
  · rw [String.toList_append, List.mem_append] at h
    rcases h with h | h
    · exact .inr (List.mem_singleton.1 h)
    · exact .inl (hdigits _ h)

theorem toString_inj_iff {m n : Int} : toString m = toString n ↔ m = n := by
  rw [Int.toString_eq_repr, Int.toString_eq_repr, Int.repr_inj]

theorem takeWhile_toString_append (s : Int) {rest : String} (h : rest.toList.head? = some ' ') :
    (toString s ++ rest).toList.takeWhile (· ≠ ' ') = (toString s).toList := by
  have hdigits : ∀ c ∈ (toString s).toList, decide (c ≠ ' ') = true := by
    intro c hc
    rcases isDigit_or_eq_minus_of_mem_toString hc with h | rfl
    · rw [decide_eq_true_eq]
      rintro rfl
      revert h
      decide
    · decide
  obtain ⟨tail, htail⟩ := List.head?_eq_some_iff.1 h
  rw [String.toList_append, htail, List.takeWhile_append_of_pos hdigits,
    List.takeWhile_cons_of_neg (by decide), List.append_nil]

/-- A blank tells where a number ends. -/
theorem eq_of_toString_append {s t : Int} {rest rest' : String}
    (hrest : rest.toList.head? = some ' ') (hrest' : rest'.toList.head? = some ' ')
    (h : toString s ++ rest = toString t ++ rest') : s = t := by
  have hread := congrArg (fun text => text.toList.takeWhile (· ≠ ' ')) h
  rw [takeWhile_toString_append s hrest, takeWhile_toString_append t hrest', String.toList_inj,
    Int.toString_eq_repr, Int.toString_eq_repr] at hread
  exact Int.repr_inj.1 hread

def figureMarks : List Char :=
  ['+', '-', '.', ':', ' ', 'e']

def Figures (cs : List Char) : Prop :=
  ∀ c ∈ cs, c.isDigit ∨ c ∈ figureMarks

@[simp] theorem figures_nil : Figures [] :=
  List.forall_mem_nil _

@[simp] theorem figures_cons {c : Char} {cs : List Char} :
    Figures (c :: cs) ↔ (c.isDigit ∨ c ∈ figureMarks) ∧ Figures cs :=
  List.forall_mem_cons

@[simp] theorem figures_append {cs ds : List Char} : Figures (cs ++ ds) ↔ Figures cs ∧ Figures ds :=
  List.forall_mem_append

@[simp] theorem figures_toDigits (n : Nat) : Figures (Nat.toDigits 10 n) :=
  fun _ hc => .inl (Nat.isDigit_of_mem_toDigits (by decide) (by decide) hc)

@[simp] theorem figures_replicate (n : Nat) : Figures (List.replicate n '0') :=
  fun _ hc => .inl (List.eq_of_mem_replicate hc ▸ rfl)

@[simp] theorem figures_toString (n : Int) : Figures (toString n).toList := by
  intro c hc
  rcases isDigit_or_eq_minus_of_mem_toString hc with hdigit | rfl
  · exact .inl hdigit
  · exact .inr (by decide)

theorem figures_exponentText (e : Int) : Figures (Double.exponentText e) := by
  unfold Double.exponentText
  dsimp only
  rw [figures_cons, figures_append]
  refine ⟨.inr ?_, figures_replicate _, figures_toDigits _⟩
  split <;> decide

theorem figures_magnitudeText (m : Rat) : Figures (Double.magnitudeText m) := by
  have hpoint : '.'.isDigit ∨ '.' ∈ figureMarks := .inr (by decide)
  obtain ⟨⟨n, last⟩, hshortest⟩ : ∃ p, p = Double.shortest m := ⟨_, rfl⟩
  have hdigits : Figures (Double.digitsOf n) := figures_toDigits n
  unfold Double.magnitudeText
  rw [← hshortest]
  dsimp only
  generalize Double.digitsOf n = ds at hdigits ⊢
  split
  · rw [figures_append, figures_cons]
    refine ⟨?_, .inr (by decide), figures_exponentText _⟩
    split
    · exact hdigits
    · obtain ⟨hfirst, hrest⟩ := figures_cons.1 hdigits
      exact figures_cons.2 ⟨hfirst, figures_cons.2 ⟨hpoint, hrest⟩⟩
    · exact figures_nil
  split
  · rw [figures_append, figures_append]
    refine ⟨⟨hdigits, figures_replicate _⟩, figures_cons.2 ⟨hpoint, ?_⟩⟩
    exact figures_replicate 1
  · have hpadded (places : Nat) :
        Figures (Double.zeros (places + 1 - ds.length) ++ ds) :=
      figures_append.2 ⟨figures_replicate _, hdigits⟩
    rw [figures_append, figures_cons]
    exact ⟨fun c hc => hpadded _ c (List.mem_of_mem_take hc), hpoint,
      fun c hc => hpadded _ c (List.mem_of_mem_drop hc)⟩

end MarkupAudit
