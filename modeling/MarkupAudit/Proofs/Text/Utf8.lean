import MarkupAudit.Proofs.Outcome
import MarkupAudit.Proofs.Text.Character
import MarkupAudit.Text.Stream

/-! UTF-8 is read as it is written: the bytes of a text are read back as its characters, no other
bytes are read without a fault, and a text that arrives in parts is read as one that arrives whole. -/
namespace MarkupAudit.Text

namespace Utf8
open String (utf8EncodeChar)

/-! What is read of bytes that begin with those of a character. -/

theorem piecesWithin_append {p : Pending} {bs : List UInt8} {c : Char} (h : Completes p bs c)
    (rest : List UInt8) : piecesWithin p (bs ++ rest) = .char c :: pieces rest := by
  induction h with
  | last owed low high value =>
    rw [List.singleton_append, piecesWithin, if_pos (by simp [low, high]), if_pos owed, value]
  | more owed low high _ ih =>
    rw [List.cons_append, piecesWithin, if_pos (by simp [low, high]), if_neg (by omega)]
    exact ih

theorem exists_completes_of_piecesWithin {p : Pending} {bs : List UInt8} {c : Char}
    {rest : List Piece} (h : piecesWithin p bs = .char c :: rest) :
    ∃ first others, bs = first ++ others ∧ Completes p first c ∧ rest = pieces others := by
  induction bs generalizing p with
  | nil => cases h
  | cons b bs ih =>
    rw [piecesWithin] at h
    split at h
    · rename_i hrange
      obtain ⟨low, high⟩ : p.low ≤ b ∧ b ≤ p.high := by simpa using hrange
      dsimp only at h
      split at h
      · rename_i owed
        obtain ⟨value, rfl⟩ := List.cons.inj h
        exact ⟨[b], bs, rfl, .last owed low high (Piece.char.inj value), rfl⟩
      · rename_i owed
        obtain ⟨first, others, rfl, hfirst, hrest⟩ := ih h
        exact ⟨b :: first, others, rfl, .more (by omega) low high hfirst, hrest⟩
    · cases h

theorem pieces_append {bs : List UInt8} {c : Char} (h : Spells bs c) (rest : List UInt8) :
    pieces (bs ++ rest) = .char c :: pieces rest := by
  cases h with
  | whole first => rw [List.singleton_append, pieces, first]
  | begun first hrest =>
    rw [List.cons_append, pieces, first]
    exact piecesWithin_append hrest rest

theorem exists_spells_of_pieces {bs : List UInt8} {c : Char} {rest : List Piece}
    (h : pieces bs = .char c :: rest) :
    ∃ first others, bs = first ++ others ∧ Spells first c ∧ rest = pieces others := by
  cases bs with
  | nil => cases h
  | cons b bs =>
    rw [pieces] at h
    split at h
    · rename_i first
      obtain ⟨value, rfl⟩ := List.cons.inj h
      exact ⟨[b], bs, rfl, .whole (by rw [first, Piece.char.inj value]), rfl⟩
    · rename_i first
      obtain ⟨middle, others, rfl, hmiddle, hrest⟩ := exists_completes_of_piecesWithin h
      exact ⟨b :: middle, others, rfl, .begun first hmiddle, hrest⟩
    · cases h

theorem piecesWithin_ne_nil (p : Pending) (bs : List UInt8) : piecesWithin p bs ≠ [] := by
  induction bs generalizing p with
  | nil => exact List.cons_ne_nil _ _
  | cons b bs ih =>
    rw [piecesWithin]
    dsimp only
    split
    · split
      · exact List.cons_ne_nil _ _
      · exact ih _
    · exact List.cons_ne_nil _ _

theorem pieces_ne_nil (b : UInt8) (bs : List UInt8) : pieces (b :: bs) ≠ [] := by
  rw [pieces]
  split
  · exact List.cons_ne_nil _ _
  · exact piecesWithin_ne_nil _ bs
  · exact List.cons_ne_nil _ _

def encodeChars (cs : List Char) : List UInt8 :=
  cs.flatMap utf8EncodeChar

theorem encodeChars_cons (c : Char) (cs : List Char) :
    encodeChars (c :: cs) = utf8EncodeChar c ++ encodeChars cs :=
  List.flatMap_cons

theorem encodeChars_singleton (c : Char) : encodeChars [c] = utf8EncodeChar c :=
  List.flatMap_singleton _ _

theorem encodeChars_append (cs ds : List Char) :
    encodeChars (cs ++ ds) = encodeChars cs ++ encodeChars ds :=
  List.flatMap_append

theorem pieces_encodeChars_append (cs : List Char) (rest : List UInt8) :
    pieces (encodeChars cs ++ rest) = cs.map .char ++ pieces rest := by
  induction cs with
  | nil => rfl
  | cons c cs ih =>
    rw [encodeChars_cons, List.append_assoc, pieces_append (spells_encodeChar c), ih,
      List.map_cons, List.cons_append]

theorem pieces_eq_map_char_iff {bs : List UInt8} {cs : List Char} :
    pieces bs = cs.map .char ↔ bs = encodeChars cs := by
  constructor
  · intro h
    induction cs generalizing bs with
    | nil =>
      cases bs with
      | nil => rfl
      | cons b bs => exact absurd h (pieces_ne_nil b bs)
    | cons c cs ih =>
      obtain ⟨first, others, rfl, hfirst, hrest⟩ := exists_spells_of_pieces h
      rw [ih hrest.symm, spells_iff.1 hfirst, encodeChars_cons]
  · rintro rfl
    have h := pieces_encodeChars_append cs []
    rw [List.append_nil] at h
    rw [h, pieces, List.append_nil]

theorem charsOrFault_eq_ok_iff {offset : Nat} {ps : List Piece} {cs : List Char} :
    charsOrFault offset ps = .ok cs ↔ ps = cs.map .char := by
  induction ps generalizing offset cs with
  | nil => cases cs <;> simp [charsOrFault]
  | cons p ps ih =>
    cases p with
    | fault size reason => cases cs <;> simp [charsOrFault]
    | char c =>
      rw [charsOrFault, Outcome.map_eq_ok_iff]
      simp only [ih]
      constructor
      · rintro ⟨rest, rfl, rfl⟩
        rfl
      · intro h
        cases cs with
        | nil => cases h
        | cons d cs =>
          obtain ⟨hc, hrest⟩ := List.cons.inj h
          exact ⟨cs, hrest, by rw [Piece.char.inj hc]⟩

/-- Strict reading gives the characters that are written with the bytes. -/
theorem decodeChars_eq_ok_iff {bs : List UInt8} {cs : List Char} :
    decodeChars bs = .ok cs ↔ bs = encodeChars cs := by
  rw [← pieces_eq_map_char_iff, ← @charsOrFault_eq_ok_iff 0, decodeChars]
  cases charsOrFault 0 (pieces bs) with
  | ok read => exact ⟨fun h => Except.ok.inj h ▸ rfl, fun h => Except.ok.inj h ▸ rfl⟩
  | error fault => exact ⟨fun h => (by cases h), fun h => (by cases h)⟩

theorem decodeLenient_encodeChars (cs : List Char) : decodeLenient (encodeChars cs) = cs := by
  rw [decodeLenient, pieces_eq_map_char_iff.2 rfl, List.map_map]
  exact List.map_id cs

theorem encode_eq (s : String) : encode s = encodeChars s.toList := by
  rw [encode, bytesOf, String.toUTF8_eq_toByteArray, ← String.utf8Encode_toList,
    List.utf8Encode, List.toList_data_toByteArray, encodeChars]

theorem encode_inj {s t : String} : encode s = encode t ↔ s = t := by
  constructor
  · intro h
    rw [encode_eq, encode_eq] at h
    have hchars := congrArg decodeLenient h
    rw [decodeLenient_encodeChars, decodeLenient_encodeChars] at hchars
    exact String.toList_inj.1 hchars
  · exact congrArg encode

theorem length_encodeChars (s : String) : (encodeChars s.toList).length = s.utf8ByteSize := by
  rw [← encode_eq, encode, Array.length_toList]
  rfl

/-! A text that arrives in parts. -/

theorem piecesWithin_of_cut {p : Pending} {bs cut : List UInt8} {c : Char}
    (h : Completes p bs c) (hcut : cut <+: bs) (hne : cut ≠ bs) :
    piecesWithin p cut = [.fault (p.size + cut.length) .endOfData] := by
  induction h generalizing cut with
  | last owed low high value =>
    cases cut with
    | nil => rfl
    | cons b cut =>
      obtain ⟨rfl, hrest⟩ := List.cons_prefix_cons.1 hcut
      rw [List.prefix_nil.1 hrest] at hne
      exact absurd rfl hne
  | more owed low high _ ih =>
    cases cut with
    | nil => rfl
    | cons b cut =>
      obtain ⟨rfl, hrest⟩ := List.cons_prefix_cons.1 hcut
      rw [piecesWithin, if_pos (by simp [low, high]), if_neg (by omega)]
      rw [ih hrest fun h => hne (h ▸ rfl), List.length_cons, Nat.add_right_comm, Nat.add_assoc]

theorem size_of_begun {b : UInt8} {p : Pending} (h : start b = .begun p) : p.size = 1 := by
  rcases start_cases b with ⟨-, hs⟩ | ⟨-, -, hs⟩ | ⟨-, -, hs⟩ | ⟨-, -, hs⟩ | hs
  all_goals rw [h] at hs
  · cases hs
  · rw [Start.begun.inj hs]
  · rw [Start.begun.inj hs]
  · rw [Start.begun.inj hs]
  · cases hs

/-- Whether bytes are the start of a character that they do not complete. -/
def Cut (bs : List UInt8) : Prop :=
  ∃ c, bs <+: utf8EncodeChar c ∧ bs ≠ utf8EncodeChar c

theorem pieces_of_cut {bs : List UInt8} (h : Cut bs) (hne : bs ≠ []) :
    pieces bs = [.fault bs.length .endOfData] := by
  obtain ⟨c, hcut, hc⟩ := h
  have hspells := spells_encodeChar c
  generalize utf8EncodeChar c = whole at hcut hc hspells
  cases bs with
  | nil => exact absurd rfl hne
  | cons b bs =>
    cases hspells with
    | whole first =>
      obtain ⟨rfl, hrest⟩ := List.cons_prefix_cons.1 hcut
      rw [List.prefix_nil.1 hrest] at hc
      exact absurd rfl hc
    | begun first rest =>
      obtain ⟨rfl, hrest⟩ := List.cons_prefix_cons.1 hcut
      rw [pieces, first]
      dsimp only
      rw [piecesWithin_of_cut rest hrest fun h => hc (h ▸ rfl), size_of_begun first,
        List.length_cons, Nat.add_comm]

theorem cut_nil : Cut [] :=
  ⟨'a', List.nil_prefix, fun h => String.utf8EncodeChar_ne_nil h.symm⟩

theorem unfinished_pieces {cs : List Char} {left : List UInt8} (h : Cut left) :
    unfinished (pieces (encodeChars cs ++ left)) = left.length := by
  rw [pieces_encodeChars_append, unfinished]
  by_cases hne : left = []
  · rw [hne, pieces, List.append_nil, List.getLast?_map]
    cases cs.getLast? <;> rfl
  · rw [pieces_of_cut h hne, List.getLast?_concat]

theorem exists_cut_of_prefix {part : List UInt8} {cs : List Char} (h : part <+: encodeChars cs) :
    ∃ read unread left, cs = read ++ unread ∧ part = encodeChars read ++ left ∧ Cut left := by
  induction cs generalizing part with
  | nil => exact ⟨[], [], [], rfl, List.prefix_nil.1 h, cut_nil⟩
  | cons c cs ih =>
    rw [encodeChars_cons] at h
    -- A part that does not hold all of the first character is a cut of it.
    by_cases hc : utf8EncodeChar c <+: part
    · obtain ⟨others, rfl⟩ := hc
      rw [List.prefix_append_right_inj] at h
      obtain ⟨read, unread, left, rfl, rfl, hleft⟩ := ih h
      exact ⟨c :: read, unread, left, rfl, by rw [encodeChars_cons, List.append_assoc], hleft⟩
    · refine ⟨[], c :: cs, part, rfl, rfl, c, ?_, ?_⟩
      · exact (List.prefix_or_prefix_of_prefix h (List.prefix_append _ _)).resolve_right hc
      · rintro rfl
        exact hc (List.prefix_refl _)

theorem take_unfinished (cs : List Char) {left : List UInt8} (h : Cut left) :
    let part := encodeChars cs ++ left
    let whole := part.length - unfinished (pieces part)
    part.take whole = encodeChars cs ∧ part.drop whole = left := by
  dsimp only
  rw [unfinished_pieces h, List.length_append, Nat.add_sub_cancel]
  exact ⟨List.take_left, List.drop_left⟩

theorem decodePart_eq_iff {bs : List UInt8} {cs : List Char} :
    decodePart bs = (cs, none) ↔ bs = encodeChars cs := by
  rw [← decodeChars_eq_ok_iff, decodePart]
  cases decodeChars bs <;> simp

/-- What is put off of a part comes first in the next one, so nothing is lost between them. -/
theorem append_eq_encodeChars_iff {part more : List UInt8} {cs : List Char} {whole : Nat}
    (hwhole : whole = part.length - unfinished (pieces part)) :
    part ++ more = encodeChars cs ↔ ∃ read unread, cs = read ++ unread ∧
      part.take whole = encodeChars read ∧ part.drop whole ++ more = encodeChars unread := by
  constructor
  · intro h
    obtain ⟨read, unread, left, rfl, rfl, hleft⟩ := exists_cut_of_prefix ⟨_, h⟩
    obtain ⟨htake, hdrop⟩ := take_unfinished read hleft
    rw [encodeChars_append, List.append_assoc, List.append_cancel_left_eq] at h
    rw [← hwhole] at htake hdrop
    rw [htake, hdrop]
    exact ⟨read, unread, rfl, rfl, h⟩
  · rintro ⟨read, unread, rfl, hread, hunread⟩
    rw [encodeChars_append, ← hread, ← hunread, ← List.append_assoc, List.take_append_drop]

/-- A text is read the same whether it arrives whole or in parts. -/
theorem decodeParts_eq_iff {size fuel : Nat} {left bs : List UInt8} {cs : List Char}
    (hsize : 0 < size) (hfuel : bs.length < fuel) :
    decodeParts size fuel left bs = (cs, none) ↔ left ++ bs = encodeChars cs := by
  induction fuel generalizing left bs cs with
  | zero => omega
  | succ fuel ih =>
    rw [decodeParts]
    split
    · rename_i hempty
      rw [List.isEmpty_iff.1 hempty, List.append_nil, decodePart_eq_iff]
    · rename_i hempty
      have hpos : 0 < bs.length := List.length_pos_iff.2 fun h => hempty (List.isEmpty_iff.2 h)
      have hshorter : (bs.drop size).length < fuel := by
        rw [List.length_drop]
        omega
      have hparts : left ++ bs = (left ++ bs.take size) ++ bs.drop size := by
        rw [List.append_assoc, List.take_append_drop]
      rw [hparts, append_eq_encodeChars_iff rfl]
      dsimp only
      constructor
      · intro h
        split at h
        · cases h
        · rename_i read hread
          generalize hrest : decodeParts size fuel _ (bs.drop size) = rest at h
          obtain ⟨unread, fault?⟩ := rest
          obtain ⟨rfl, rfl⟩ := Prod.mk.inj h
          exact ⟨read, unread, rfl, decodePart_eq_iff.1 hread, (ih hshorter).1 hrest⟩
      · rintro ⟨read, unread, rfl, hread, hunread⟩
        rw [decodePart_eq_iff.2 hread, (ih hshorter).2 hunread]

end Utf8

namespace Stream

theorem decodeParts_partSize_eq_iff {bytes : List UInt8} {cs : List Char} :
    Utf8.decodeParts partSize (bytes.length + 1) [] bytes = (cs, none) ↔
      bytes = Utf8.encodeChars cs :=
  Utf8.decodeParts_eq_iff (by decide) (Nat.lt_succ_self _)

theorem ofBytes_encode (text : String) :
    ofBytes (Utf8.encode text) = ⟨String.ofList (unifyNewlines text.toList), none⟩ := by
  rw [ofBytes, decodeParts_partSize_eq_iff.2 (Utf8.encode_eq text)]

theorem fault?_ofBytes_eq_none_iff {bytes : List UInt8} :
    (ofBytes bytes).fault? = none ↔ ∃ text : String, bytes = Utf8.encode text := by
  constructor
  · intro h
    unfold ofBytes at h
    split at h
    · rename_i cs hparts
      refine ⟨String.ofList cs, ?_⟩
      rw [Utf8.encode_eq, String.toList_ofList, decodeParts_partSize_eq_iff.1 hparts]
    · cases h
  · rintro ⟨text, rfl⟩
    rw [ofBytes_encode]

end Stream

end MarkupAudit.Text
