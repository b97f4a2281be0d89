import Mathlib.Algebra.Ring.Nat
import MarkupAudit.Proofs.Text.Position

/-! Positions read back. The line and the column of a byte between two characters say how many
characters come before it: those of the earlier lines, each with its newline, and the columns passed
on its own line. A byte within a character has the column after that of the character. -/
namespace MarkupAudit.Text
open String (utf8EncodeChar)
open Utf8 (encodeChars)

def lines (s : String) : List (List Char) :=
  s.toList.splitOn '\n'

/-- Whether a position is on a line of a text and says that so many characters come before it. -/
structure Position.Counts (p : Position) (s : String) (characters : Nat) : Prop where
  line_pos : 1 ≤ p.line
  column_pos : 1 ≤ p.column
  on_line : ∃ line, (lines s)[p.line - 1]? = some line ∧ p.column - 1 ≤ line.length
  before : characters =
    (((lines s).take (p.line - 1)).map fun line => line.length + 1).sum + (p.column - 1)

theorem exists_splitOn_append (cs ds : List Char) :
    ∃ earlier, earlier.length = cs.count '\n' ∧
      cs.length = (earlier.map fun line => line.length + 1).sum + (afterLast '\n' cs).length ∧
      (cs ++ ds).splitOn '\n' =
        earlier ++ (ds.splitOn '\n').modifyHead (afterLast '\n' cs ++ ·) := by
  induction cs using List.reverseRecOn generalizing ds with
  | nil => exact ⟨[], rfl, rfl, (List.modifyHead_id).symm ▸ rfl⟩
  | append_singleton cs c ih =>
    obtain ⟨earlier, hcount, hlength, hsplit⟩ := ih (c :: ds)
    rw [List.splitOn_cons_eq_if_modifyHead] at hsplit
    rw [List.append_assoc, List.singleton_append, hsplit, afterLast_append_singleton]
    by_cases hc : c = '\n'
    · refine ⟨earlier ++ [afterLast '\n' cs], ?_, ?_, ?_⟩
      · simp [hc, hcount]
      · simp [hc, hlength]
        omega
      · simp [hc]
        exact (congrFun List.modifyHead_id _).symm
    · refine ⟨earlier, ?_, ?_, ?_⟩
      · simp [hc, hcount]
      · simp [hc, hlength]
        omega
      · simp [hc]
        rfl

theorem counts_positionAfter (first rest : String) :
    (positionAfter first.toList).Counts (first ++ rest) first.length := by
  obtain ⟨earlier, hcount, hlength, hsplit⟩ := exists_splitOn_append first.toList rest.toList
  obtain ⟨line, others, hrest⟩ :=
    List.exists_cons_of_ne_nil (List.splitOn_ne_nil '\n' rest.toList)
  have hlines : lines (first ++ rest) =
      earlier ++ (afterLast '\n' first.toList ++ line) :: others := by
    rw [lines, String.toList_append, hsplit, hrest, List.modifyHead_cons]
  have hline : (positionAfter first.toList).line - 1 = earlier.length := hcount.symm
  refine ⟨Nat.succ_pos _, Nat.succ_pos _, ?_, ?_⟩
  · refine ⟨afterLast '\n' first.toList ++ line, ?_, ?_⟩
    · rw [hline, hlines, List.getElem?_append_right (Nat.le_refl _), Nat.sub_self,
        List.getElem?_cons_zero]
    · rw [List.length_append]
      exact Nat.le_add_right _ _
  · rw [hline, hlines, List.take_left, ← String.length_toList, hlength]
    rfl

theorem length_decodeLenient_append_cut (cs : List Char) {cut : List UInt8} (h : Utf8.Cut cut)
    (hne : cut ≠ []) : (Utf8.decodeLenient (encodeChars cs ++ cut)).length = cs.length + 1 := by
  rw [Utf8.decodeLenient, List.length_map, Utf8.pieces_encodeChars_append,
    Utf8.pieces_of_cut h hne, List.length_append, List.length_map, List.length_singleton]

theorem positionAt_within (first rest : String) {c : Char} {offset : Nat}
    (hstart : first.utf8ByteSize < offset) (hstop : offset < first.utf8ByteSize + c.utf8Size) :
    positionAt (Utf8.bytesOf (first ++ (String.singleton c ++ rest))) offset =
      ⟨(positionAfter first.toList).line, (positionAfter first.toList).column + 1⟩ := by
  have hsize := String.length_utf8EncodeChar c
  obtain ⟨cut, hcut⟩ : ∃ cut, cut = (utf8EncodeChar c).take (offset - first.utf8ByteSize) :=
    ⟨_, rfl⟩
  have hlength : cut.length = offset - first.utf8ByteSize := by
    rw [hcut, List.length_take]
    omega
  have htake : (Utf8.bytesOf (first ++ (String.singleton c ++ rest))).toList.take offset =
      encodeChars first.toList ++ cut := by
    rw [← Utf8.encode, Utf8.encode_eq, String.toList_append, String.toList_append,
      String.toList_singleton, Utf8.encodeChars_append, Utf8.encodeChars_append,
      Utf8.encodeChars_singleton, List.take_append, Utf8.length_encodeChars,
      List.take_of_length_le (by rw [Utf8.length_encodeChars]; omega),
      List.take_append_of_le_length (by omega), hcut]
  have hbegun : Utf8.Cut cut := by
    refine ⟨c, hcut ▸ List.take_prefix _ _, ?_⟩
    intro hwhole
    rw [hwhole] at hlength
    omega
  have hne : cut ≠ [] := List.ne_nil_of_length_pos (by omega)
  have hnewline : newline ∉ cut := by
    intro hmem
    rw [hcut] at hmem
    rw [newline_mem_encodeChar_iff.1 (List.mem_of_mem_take hmem)] at hstop
    have : '\n'.utf8Size = 1 := rfl
    omega
  rw [positionAt_eq, htake, List.count_append, count_newline_encodeChars,
    List.count_eq_zero.2 hnewline, lastLine_eq, afterLast_append _ hnewline, ← lastLine_eq,
    lastLine_encodeChars, length_decodeLenient_append_cut _ hbegun hne]
  rfl

theorem exists_split_encodeChars (cs : List Char) {offset : Nat}
    (h : offset ≤ (encodeChars cs).length) :
    (∃ as bs, cs = as ++ bs ∧ (encodeChars as).length = offset) ∨
    ∃ as c bs, cs = as ++ c :: bs ∧
      (encodeChars as).length < offset ∧ offset < (encodeChars as).length + c.utf8Size := by
  induction cs generalizing offset with
  | nil => exact .inl ⟨[], [], rfl, (Nat.le_zero.1 h).symm⟩
  | cons d cs ih =>
    have hcons (as : List Char) :
        (encodeChars (d :: as)).length = d.utf8Size + (encodeChars as).length := by
      rw [Utf8.encodeChars_cons, List.length_append, String.length_utf8EncodeChar]
    rw [hcons] at h
    rcases Nat.eq_zero_or_pos offset with rfl | hpos
    · exact .inl ⟨[], d :: cs, rfl, rfl⟩
    rcases Nat.lt_or_ge offset d.utf8Size with hlt | hge
    · exact .inr ⟨[], d, cs, rfl, hpos, by rw [show (encodeChars []).length = 0 from rfl]; omega⟩
    rcases @ih (offset - d.utf8Size) (by omega) with ⟨as, bs, rfl, has⟩ | ⟨as, c, bs, rfl, hlo, hhi⟩
    · exact .inl ⟨d :: as, bs, rfl, by rw [hcons]; omega⟩
    · exact .inr ⟨d :: as, c, bs, rfl, by rw [hcons]; omega, by rw [hcons]; omega⟩

theorem exists_split_at (s : String) {offset : Nat} (h : offset ≤ s.utf8ByteSize) :
    (∃ first rest, s = first ++ rest ∧ first.utf8ByteSize = offset) ∨
    ∃ first c rest, s = first ++ (String.singleton c ++ rest) ∧
      first.utf8ByteSize < offset ∧ offset < first.utf8ByteSize + c.utf8Size := by
  rw [← Utf8.length_encodeChars] at h
  rcases exists_split_encodeChars s.toList h with ⟨as, bs, hs, has⟩ | ⟨as, c, bs, hs, hlo, hhi⟩
  · refine .inl ⟨String.ofList as, String.ofList bs, ?_, ?_⟩
    · rw [← String.toList_inj, hs, String.toList_append, String.toList_ofList,
        String.toList_ofList]
    · rw [← Utf8.length_encodeChars, String.toList_ofList, has]
  · refine .inr ⟨String.ofList as, c, String.ofList bs, ?_, ?_⟩
    · rw [← String.toList_inj, hs, String.toList_append, String.toList_append,
        String.toList_singleton, String.toList_ofList, String.toList_ofList]
      rfl
    · rw [← Utf8.length_encodeChars, String.toList_ofList]
      exact ⟨hlo, hhi⟩

theorem lastLine_eq_takeWhile (bs : List UInt8) :
    lastLine bs = (bs.reverse.takeWhile (· != newline)).reverse := by
  induction bs using List.reverseRecOn with
  | nil => rfl
  | append_singleton bs b ih =>
    rw [lastLine_append_singleton, List.reverse_append, List.reverse_singleton,
      List.singleton_append, List.takeWhile_cons]
    by_cases hb : b = newline
    · simp [hb]
    · simp [hb, ih]

theorem lastLine_suffix (bs : List UInt8) : lastLine bs <:+ bs := by
  rw [lastLine_eq_takeWhile, ← List.reverse_prefix, List.reverse_reverse]
  exact List.takeWhile_prefix _

/-- The column of an offset that is so many bytes past the start of its line. -/
def charColumn (bytes : Array UInt8) (offset byteColumn : Nat) : Nat :=
  (Utf8.decodeLenient (slice bytes (offset - byteColumn) offset)).length + 1

def bytesBefore (source : String) (offset : Nat) : List UInt8 :=
  (Utf8.bytesOf source).toList.take offset

def byteColumn (before : List UInt8) : Nat :=
  (before.reverse.takeWhile (· != newline)).length

theorem length_lastLine (bs : List UInt8) : (lastLine bs).length = byteColumn bs := by
  rw [lastLine_eq_takeWhile, List.length_reverse, byteColumn]

theorem positionAt_eq_charColumn (source : String) {offset : Nat}
    (h : offset ≤ source.utf8ByteSize) :
    positionAt (Utf8.bytesOf source) offset = ⟨(bytesBefore source offset).count newline + 1,
      charColumn (Utf8.bytesOf source) offset (byteColumn (bytesBefore source offset))⟩ := by
  have hlength : (bytesBefore source offset).length = offset := by
    rw [bytesBefore, List.length_take, Array.length_toList]
    exact Nat.min_eq_left h
  have hline : slice (Utf8.bytesOf source) (offset - byteColumn (bytesBefore source offset))
      offset = lastLine (bytesBefore source offset) := by
    have hdrop := List.suffix_iff_eq_drop.1 (lastLine_suffix (bytesBefore source offset))
    rw [hlength, length_lastLine] at hdrop
    rw [slice_eq]
    exact hdrop.symm
  rw [positionAt_eq, charColumn, hline]
  rfl

/-- What a position says of a source. A byte between two characters is told by its position, which
counts the characters before it; a byte within a character has the column after that character's. -/
theorem positionAt_decodes (source : String) {offset : Nat} (h : offset ≤ source.utf8ByteSize) :
    positionAt (Utf8.bytesOf source) offset = ⟨(bytesBefore source offset).count newline + 1,
      charColumn (Utf8.bytesOf source) offset (byteColumn (bytesBefore source offset))⟩ ∧
    (∀ first rest, source = first ++ rest → first.utf8ByteSize = offset →
      (positionAt (Utf8.bytesOf source) offset).Counts source first.length ∧
      ∀ other, String.Pos.Raw.IsValid source ⟨other⟩ →
        positionAt (Utf8.bytesOf source) other = positionAt (Utf8.bytesOf source) offset →
        other = offset) ∧
    (∀ first c rest, source = first ++ (String.singleton c ++ rest) →
      first.utf8ByteSize < offset → offset < first.utf8ByteSize + c.utf8Size →
      (positionAt (Utf8.bytesOf source) offset).column =
        (positionAt (Utf8.bytesOf source) first.utf8ByteSize).column + 1) ∧
    ((∃ first rest, source = first ++ rest ∧ first.utf8ByteSize = offset) ∨
      ∃ first c rest, source = first ++ (String.singleton c ++ rest) ∧
        first.utf8ByteSize < offset ∧ offset < first.utf8ByteSize + c.utf8Size) := by
  refine ⟨positionAt_eq_charColumn source h, ?_, ?_, exists_split_at source h⟩
  · rintro first rest rfl rfl
    have hposition : positionAt _ _ = positionAfter first.toList := positionAt_append first rest
    refine ⟨hposition ▸ counts_positionAfter first rest, ?_⟩
    intro other hother heq
    exact positionAt_inj hother (String.Pos.Raw.isValid_iff_exists_append.2 ⟨first, rest, rfl, rfl⟩)
      heq
  · rintro first c rest rfl hstart hstop
    rw [positionAt_within first rest hstart hstop, positionAt_append]

def wideText : String :=
  "aé\n😀b"

/-- Byte 8 is after the fourth character, at the second column of the second line; byte 6 is within
that character, which starts at byte 4. -/
theorem positionAt_decodes_wideText :
    8 ≤ wideText.utf8ByteSize ∧
    positionAt (Utf8.bytesOf wideText) 8 = ⟨2, 2⟩ ∧
    (positionAt (Utf8.bytesOf wideText) 8).Counts wideText 4 ∧
    (∀ other, String.Pos.Raw.IsValid wideText ⟨other⟩ →
      positionAt (Utf8.bytesOf wideText) other = positionAt (Utf8.bytesOf wideText) 8 →
        other = 8) ∧
    (positionAt (Utf8.bytesOf wideText) 6).column =
      (positionAt (Utf8.bytesOf wideText) 4).column + 1 := by
  have hsize : wideText.utf8ByteSize = 9 := by decide +kernel
  have hposition : positionAt (Utf8.bytesOf wideText) 8 = ⟨2, 2⟩ := by decide +kernel
  have hlast : 8 ≤ wideText.utf8ByteSize := by omega
  have hinner : 6 ≤ wideText.utf8ByteSize := by omega
  obtain ⟨-, hbetween, -, -⟩ := positionAt_decodes wideText hlast
  obtain ⟨-, -, hwithin, -⟩ := positionAt_decodes wideText hinner
  obtain ⟨hcounts, htold⟩ := hbetween "aé\n😀" "b" (by decide +kernel) (by decide +kernel)
  refine ⟨hlast, hposition, hcounts, htold, ?_⟩
  exact hwithin "aé\n" '😀' "b" (by decide +kernel) (by decide +kernel) (by decide +kernel)

end MarkupAudit.Text
