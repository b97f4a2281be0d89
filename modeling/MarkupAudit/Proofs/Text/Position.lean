import Mathlib.Data.List.Induction
import MarkupAudit.Proofs.Text.Utf8
import MarkupAudit.Text.Position

/-! The position of a byte between two characters of a text: its line counts the newlines before it,
its column the characters since the last of them. Different such bytes have different positions. -/
namespace MarkupAudit.Text
open String (utf8EncodeChar)
open Utf8 (encodeChars)

section
variable {α : Type} [DecidableEq α]

def afterLast (separator : α) (xs : List α) : List α :=
  xs.foldl (fun line x => if x = separator then [] else line ++ [x]) []

theorem afterLast_append_singleton (separator : α) (xs : List α) (x : α) :
    afterLast separator (xs ++ [x]) =
      if x = separator then [] else afterLast separator xs ++ [x] := by
  simp [afterLast]

theorem afterLast_append {separator : α} (xs : List α) {ys : List α} (h : separator ∉ ys) :
    afterLast separator (xs ++ ys) = afterLast separator xs ++ ys := by
  induction ys using List.reverseRecOn with
  | nil => simp
  | append_singleton ys y ih =>
    rw [List.mem_append, List.mem_singleton, not_or] at h
    rw [← List.append_assoc, afterLast_append_singleton, if_neg (Ne.symm h.2), ih h.1,
      List.append_assoc]

end

def positionAfter (cs : List Char) : Position :=
  ⟨cs.count '\n' + 1, (afterLast '\n' cs).length + 1⟩

theorem lastLine_eq (bs : List UInt8) : lastLine bs = afterLast newline bs :=
  rfl

theorem newline_mem_encodeChar_iff {c : Char} : newline ∈ utf8EncodeChar c ↔ c = '\n' := by
  rw [Utf8.mem_encodeChar_iff (by decide)]
  exact Char.toNat_inj (d := '\n')

theorem count_newline_encodeChars (cs : List Char) :
    (encodeChars cs).count newline = cs.count '\n' := by
  induction cs with
  | nil => rfl
  | cons c cs ih =>
    rw [Utf8.encodeChars_cons, List.count_append, ih, List.count_cons, Nat.add_comm]
    congr 1
    by_cases hc : c = '\n'
    · subst hc
      rfl
    · rw [List.count_eq_zero.2 (mt newline_mem_encodeChar_iff.1 hc), if_neg (by simpa using hc)]

theorem lastLine_encodeChars (cs : List Char) :
    lastLine (encodeChars cs) = encodeChars (afterLast '\n' cs) := by
  induction cs using List.reverseRecOn with
  | nil => rfl
  | append_singleton cs c ih =>
    rw [lastLine_eq] at ih ⊢
    rw [Utf8.encodeChars_append, Utf8.encodeChars_singleton, afterLast_append_singleton]
    by_cases hc : c = '\n'
    · subst hc
      exact afterLast_append_singleton newline (encodeChars cs) newline
    · rw [if_neg hc, afterLast_append _ (mt newline_mem_encodeChar_iff.1 hc), ih,
        Utf8.encodeChars_append, Utf8.encodeChars_singleton]

theorem positionAt_append (s t : String) :
    positionAt (Utf8.bytesOf (s ++ t)) s.utf8ByteSize = positionAfter s.toList := by
  have htake : (Utf8.bytesOf (s ++ t)).toList.take s.utf8ByteSize = encodeChars s.toList := by
    rw [← Utf8.encode, Utf8.encode_eq, String.toList_append, Utf8.encodeChars_append,
      ← Utf8.length_encodeChars, List.take_left]
  rw [positionAt_eq, htake, count_newline_encodeChars, lastLine_encodeChars,
    Utf8.decodeLenient_encodeChars, positionAfter]

theorem eq_nil_of_positionAfter_append {cs ds : List Char}
    (h : positionAfter (cs ++ ds) = positionAfter cs) : ds = [] := by
  obtain ⟨hline, hcolumn⟩ := Position.mk.inj h
  rw [List.count_append] at hline
  have hnone : '\n' ∉ ds := List.count_eq_zero.1 (by omega)
  rw [afterLast_append cs hnone, List.length_append] at hcolumn
  exact List.length_eq_zero_iff.1 (by omega)

theorem eq_of_positionAfter_eq {cs ds : List Char} (hinitial : cs <+: ds)
    (h : positionAfter ds = positionAfter cs) : ds = cs := by
  obtain ⟨rest, rfl⟩ := hinitial
  rw [eq_nil_of_positionAfter_append h, List.append_nil]

theorem positionAt_inj {s : String} {m n : Nat} (hm : String.Pos.Raw.IsValid s ⟨m⟩)
    (hn : String.Pos.Raw.IsValid s ⟨n⟩)
    (h : positionAt (Utf8.bytesOf s) m = positionAt (Utf8.bytesOf s) n) : m = n := by
  obtain ⟨a, b, hab, ha⟩ := String.Pos.Raw.isValid_iff_exists_append.1 hm
  obtain ⟨c, d, hcd, hc⟩ := String.Pos.Raw.isValid_iff_exists_append.1 hn
  cases ha
  cases hc
  have hposition : positionAfter a.toList = positionAfter c.toList := by
    rw [← positionAt_append a b, ← positionAt_append c d, ← hab, ← hcd]
    exact h
  have hinitial (x y : String) (hs : s = x ++ y) : x.toList <+: s.toList := by
    rw [hs, String.toList_append]
    exact List.prefix_append _ _
  suffices hac : a.toList = c.toList by rw [String.toList_inj.1 hac]
  rcases List.prefix_or_prefix_of_prefix (hinitial a b hab) (hinitial c d hcd) with h | h
  · exact (eq_of_positionAfter_eq h hposition.symm).symm
  · exact eq_of_positionAfter_eq h hposition

end MarkupAudit.Text
