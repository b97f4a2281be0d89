import MarkupAudit.Text.Utf8

/-! Lines and columns of byte offsets. Only a newline byte ends a line, and a column counts the
characters before the offset on its line, a character cut by the offset included. -/
namespace MarkupAudit.Text

structure Position where
  line : Nat
  column : Nat
  deriving DecidableEq, Repr

def newline : UInt8 := 10

def slice (bytes : Array UInt8) (start stop : Nat) : List UInt8 :=
  (bytes.extract start stop).toList

theorem slice_eq (bytes : Array UInt8) (start stop : Nat) :
    slice bytes start stop = (bytes.toList.take stop).drop start := by
  simp [slice, List.drop_take]

def lastLine (bs : List UInt8) : List UInt8 :=
  bs.foldl (fun line b => if b = newline then [] else line ++ [b]) []

def rowAt (bytes : Array UInt8) (offset : Nat) : Nat :=
  bytes.foldl (fun row b => if b = newline then row + 1 else row) 0 0 offset

def lineStart (bytes : Array UInt8) : Nat → Nat
  | 0 => 0
  | n + 1 => if bytes[n]? = some newline then n + 1 else lineStart bytes n

/-- The position of a byte offset, lines and columns counted from one. -/
def positionAt (bytes : Array UInt8) (offset : Nat) : Position :=
  let line := slice bytes (lineStart bytes offset) offset
  ⟨rowAt bytes offset + 1, (Utf8.decodeLenient line).length + 1⟩

theorem rowAt_eq (bytes : Array UInt8) (offset : Nat) :
    rowAt bytes offset = (bytes.toList.take offset).count newline := by
  have count (bs : List UInt8) (n : Nat) :
      bs.foldl (fun row b => if b = newline then row + 1 else row) n = n + bs.count newline := by
    induction bs generalizing n with
    | nil => simp
    | cons b bs ih =>
      rw [List.foldl_cons, ih, List.count_cons]
      by_cases h : b = newline
      · simp only [h, if_true, beq_self_eq_true]
        omega
      · simp [h]
  unfold rowAt
  rw [Array.foldl_eq_foldl_extract, ← Array.foldl_toList]
  simp [count]

theorem lastLine_append_singleton (bs : List UInt8) (b : UInt8) :
    lastLine (bs ++ [b]) = if b = newline then [] else lastLine bs ++ [b] := by
  simp [lastLine]

theorem drop_lineStart (bytes : Array UInt8) (offset : Nat) :
    (bytes.toList.take offset).drop (lineStart bytes offset) =
      lastLine (bytes.toList.take offset) := by
  induction offset with
  | zero => simp [lineStart, lastLine]
  | succ n ih =>
    rcases Nat.lt_or_ge n bytes.size with h | h
    · have ht : bytes.toList.take (n + 1) = bytes.toList.take n ++ [bytes[n]] := by
        simp [List.take_add_one, h]
      have hs : lineStart bytes n ≤ n := lineStart_le bytes n
      rw [ht, lastLine_append_singleton, ← ih]
      simp only [lineStart, Array.getElem?_eq_getElem h, Option.some.injEq]
      split
      · apply List.drop_eq_nil_of_le
        rw [← ht]
        exact List.length_take_le _ _
      · rw [List.drop_append_of_le_length]
        simp
        omega
    · have hn : lineStart bytes (n + 1) = lineStart bytes n := by
        simp [lineStart, Array.getElem?_eq_none h]
      have ht (k : Nat) (hk : n ≤ k) : bytes.toList.take k = bytes.toList :=
        List.take_of_length_le (by simp; omega)
      rw [hn, ht (n + 1) (by omega), ← ht n (Nat.le_refl n)]
      exact ih
where
  lineStart_le (bytes : Array UInt8) (n : Nat) : lineStart bytes n ≤ n := by
    induction n with
    | zero => simp [lineStart]
    | succ n ih => unfold lineStart; split <;> omega

theorem positionAt_eq (bytes : Array UInt8) (offset : Nat) :
    positionAt bytes offset =
      ⟨(bytes.toList.take offset).count newline + 1,
        (Utf8.decodeLenient (lastLine (bytes.toList.take offset))).length + 1⟩ := by
  simp [positionAt, slice_eq, rowAt_eq, drop_lineStart]

end MarkupAudit.Text
