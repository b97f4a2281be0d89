import Mathlib.Data.List.Basic
import MarkupAudit.Text.Utf8

/-! The bytes of one character. What the reader takes for a character, byte by byte, is what the
character is written as: the ranges that it allows for a second byte leave out the long forms, the
surrogates and whatever is past the last code point. -/
namespace MarkupAudit.Text.Utf8
open String (utf8EncodeChar)

/-- Whether bytes bring a character that has been begun to its end. -/
inductive Completes : Pending → List UInt8 → Char → Prop
  | last {p : Pending} {b : UInt8} {c : Char} (owed : p.owed ≤ 1) (low : p.low ≤ b)
    (high : b ≤ p.high) (value : Char.ofNat (p.bits * 64 + b.toNat % 64) = c) :
    Completes p [b] c
  | more {p : Pending} {b : UInt8} {bs : List UInt8} {c : Char} (owed : 1 < p.owed)
    (low : p.low ≤ b) (high : b ≤ p.high)
    (rest : Completes ⟨p.bits * 64 + b.toNat % 64, p.size + 1, p.owed - 1, 0x80, 0xBF⟩ bs c) :
    Completes p (b :: bs) c

/-- Whether bytes are those of one character. -/
inductive Spells : List UInt8 → Char → Prop
  | whole {b : UInt8} {c : Char} (first : start b = .whole c) : Spells [b] c
  | begun {b : UInt8} {p : Pending} {bs : List UInt8} {c : Char} (first : start b = .begun p)
    (rest : Completes p bs c) : Spells (b :: bs) c

/-! What a first byte settles, by its range. -/

section
variable {b : UInt8}

theorem start_one (h : b.toNat < 0x80) : start b = .whole (Char.ofNat b.toNat) := by
  simp only [start, if_pos h]

theorem start_two (hlow : 0xC2 ≤ b.toNat) (hhigh : b.toNat < 0xE0) :
    start b = .begun ⟨b.toNat - 0xC0, 1, 1, 0x80, 0xBF⟩ := by
  simp only [start, if_neg (show ¬b.toNat < 0x80 by omega), if_neg (show ¬b.toNat < 0xC2 by omega),
    if_pos hhigh]

theorem start_three (hlow : 0xE0 ≤ b.toNat) (hhigh : b.toNat < 0xF0) :
    start b = .begun ⟨b.toNat - 0xE0, 1, 2, if b.toNat = 0xE0 then 0xA0 else 0x80,
      if b.toNat = 0xED then 0x9F else 0xBF⟩ := by
  simp only [start, if_neg (show ¬b.toNat < 0x80 by omega), if_neg (show ¬b.toNat < 0xC2 by omega),
    if_neg (show ¬b.toNat < 0xE0 by omega), if_pos hhigh]

theorem start_four (hlow : 0xF0 ≤ b.toNat) (hhigh : b.toNat < 0xF5) :
    start b = .begun ⟨b.toNat - 0xF0, 1, 3, if b.toNat = 0xF0 then 0x90 else 0x80,
      if b.toNat = 0xF4 then 0x8F else 0xBF⟩ := by
  simp only [start, if_neg (show ¬b.toNat < 0x80 by omega), if_neg (show ¬b.toNat < 0xC2 by omega),
    if_neg (show ¬b.toNat < 0xE0 by omega), if_neg (show ¬b.toNat < 0xF0 by omega), if_pos hhigh]

theorem start_bad (h : 0x80 ≤ b.toNat) (hout : b.toNat < 0xC2 ∨ 0xF5 ≤ b.toNat) :
    start b = .bad := by
  rcases hout with hout | hout
  · simp only [start, if_neg (show ¬b.toNat < 0x80 by omega), if_pos hout]
  · simp only [start, if_neg (show ¬b.toNat < 0x80 by omega),
      if_neg (show ¬b.toNat < 0xC2 by omega), if_neg (show ¬b.toNat < 0xE0 by omega),
      if_neg (show ¬b.toNat < 0xF0 by omega), if_neg (show ¬b.toNat < 0xF5 by omega)]

theorem start_cases (b : UInt8) :
    (b.toNat < 0x80 ∧ start b = .whole (Char.ofNat b.toNat)) ∨
    (0xC2 ≤ b.toNat ∧ b.toNat < 0xE0 ∧ start b = .begun ⟨b.toNat - 0xC0, 1, 1, 0x80, 0xBF⟩) ∨
    (0xE0 ≤ b.toNat ∧ b.toNat < 0xF0 ∧ start b = .begun ⟨b.toNat - 0xE0, 1, 2,
      if b.toNat = 0xE0 then 0xA0 else 0x80, if b.toNat = 0xED then 0x9F else 0xBF⟩) ∨
    (0xF0 ≤ b.toNat ∧ b.toNat < 0xF5 ∧ start b = .begun ⟨b.toNat - 0xF0, 1, 3,
      if b.toNat = 0xF0 then 0x90 else 0x80, if b.toNat = 0xF4 then 0x8F else 0xBF⟩) ∨
    start b = .bad := by
  rcases Nat.lt_or_ge b.toNat 0x80 with h1 | h1
  · exact .inl ⟨h1, start_one h1⟩
  rcases Nat.lt_or_ge b.toNat 0xC2 with h2 | h2
  · exact .inr (.inr (.inr (.inr (start_bad h1 (.inl h2)))))
  rcases Nat.lt_or_ge b.toNat 0xE0 with h3 | h3
  · exact .inr (.inl ⟨h2, h3, start_two h2 h3⟩)
  rcases Nat.lt_or_ge b.toNat 0xF0 with h4 | h4
  · exact .inr (.inr (.inl ⟨h3, h4, start_three h3 h4⟩))
  rcases Nat.lt_or_ge b.toNat 0xF5 with h5 | h5
  · exact .inr (.inr (.inr (.inl ⟨h4, h5, start_four h4 h5⟩)))
  · exact .inr (.inr (.inr (.inr (start_bad h1 (.inr h5)))))

end

/-! The bytes of a character by the range of its code point. -/

def tail (n : Nat) : UInt8 :=
  UInt8.ofNat (n % 64 + 0x80)

theorem toNat_ofNat_of_lt {n : Nat} (h : n < 256) : (UInt8.ofNat n).toNat = n := by
  rw [UInt8.toNat_ofNat', Nat.mod_eq_of_lt h]

theorem toNat_tail (n : Nat) : (tail n).toNat = n % 64 + 0x80 :=
  toNat_ofNat_of_lt (by omega)

theorem low_le_tail (n : Nat) : 0x80 ≤ tail n := by
  rw [UInt8.le_iff_toNat_le, toNat_tail]
  exact Nat.le_add_left _ _

theorem tail_le_high (n : Nat) : tail n ≤ 0xBF := by
  rw [UInt8.le_iff_toNat_le, toNat_tail]
  show _ ≤ 191
  omega

theorem ite_le_tail_iff {p : Prop} [Decidable p] {b : UInt8} {n : Nat} :
    (if p then b else 0x80) ≤ tail n ↔ (p → b.toNat ≤ n % 64 + 0x80) := by
  split <;> rename_i hp
  · rw [UInt8.le_iff_toNat_le, toNat_tail]
    exact ⟨fun h _ => h, fun h => h hp⟩
  · exact ⟨fun _ h => absurd h hp, fun _ => low_le_tail n⟩

theorem tail_le_ite_iff {p : Prop} [Decidable p] {b : UInt8} {n : Nat} :
    (tail n ≤ if p then b else 0xBF) ↔ (p → n % 64 + 0x80 ≤ b.toNat) := by
  split <;> rename_i hp
  · rw [UInt8.le_iff_toNat_le, toNat_tail]
    exact ⟨fun h _ => h, fun h => h hp⟩
  · exact ⟨fun _ h => absurd h hp, fun _ => tail_le_high n⟩

theorem eq_tail {b : UInt8} {n : Nat} (low : 0x80 ≤ b) (high : b ≤ 0xBF)
    (h : b.toNat % 64 = n % 64) : b = tail n := by
  rw [UInt8.le_iff_toNat_le] at low high
  apply UInt8.toNat_inj.1
  rw [toNat_tail]
  have hlow : 128 ≤ b.toNat := low
  have hhigh : b.toNat ≤ 191 := high
  omega

theorem eq_ofNat {b : UInt8} {n : Nat} (h : b.toNat = n) : b = UInt8.ofNat n := by
  rw [← h, UInt8.ofNat_toNat]

theorem toNat_char_ofNat {n : Nat} (h : n.isValidChar) : (Char.ofNat n).toNat = n := by
  rw [Char.ofNat, dif_pos h]
  rfl

section
variable {c : Char}

theorem encodeChar_one (h : c.toNat < 0x80) : utf8EncodeChar c = [UInt8.ofNat c.toNat] := by
  rw [utf8EncodeChar, Char.toNat_val]
  simp only [if_pos (show c.toNat ≤ 0x7f by omega)]

theorem encodeChar_two (hlow : 0x80 ≤ c.toNat) (hhigh : c.toNat < 0x800) :
    utf8EncodeChar c = [UInt8.ofNat (c.toNat / 64 % 0x20 + 0xC0), tail c.toNat] := by
  rw [utf8EncodeChar, Char.toNat_val]
  simp only [if_neg (show ¬c.toNat ≤ 0x7f by omega), if_pos (show c.toNat ≤ 0x7ff by omega)]
  rfl

theorem encodeChar_three (hlow : 0x800 ≤ c.toNat) (hhigh : c.toNat < 0x10000) :
    utf8EncodeChar c =
      [UInt8.ofNat (c.toNat / 4096 % 0x10 + 0xE0), tail (c.toNat / 64), tail c.toNat] := by
  rw [utf8EncodeChar, Char.toNat_val]
  simp only [if_neg (show ¬c.toNat ≤ 0x7f by omega), if_neg (show ¬c.toNat ≤ 0x7ff by omega),
    if_pos (show c.toNat ≤ 0xffff by omega)]
  rfl

theorem encodeChar_four (hlow : 0x10000 ≤ c.toNat) :
    utf8EncodeChar c = [UInt8.ofNat (c.toNat / 262144 % 0x08 + 0xF0), tail (c.toNat / 4096),
      tail (c.toNat / 64), tail c.toNat] := by
  rw [utf8EncodeChar, Char.toNat_val]
  simp only [if_neg (show ¬c.toNat ≤ 0x7f by omega), if_neg (show ¬c.toNat ≤ 0x7ff by omega),
    if_neg (show ¬c.toNat ≤ 0xffff by omega)]
  rfl

theorem high_tail (n : Nat) : 0x80 ≤ (tail n).toNat := by
  rw [toNat_tail]
  exact Nat.le_add_left _ _

theorem high_ofNat {n : Nat} (low : 0x80 ≤ n) (high : n < 256) : 0x80 ≤ (UInt8.ofNat n).toNat := by
  rw [toNat_ofNat_of_lt high]
  exact low

theorem high_of_mem_encodeChar (h : 0x80 ≤ c.toNat) : ∀ b ∈ utf8EncodeChar c, 0x80 ≤ b.toNat := by
  rcases Nat.lt_or_ge c.toNat 0x800 with h2 | h2
  · rw [encodeChar_two h h2, List.forall_mem_cons, List.forall_mem_singleton]
    exact ⟨high_ofNat (by omega) (by omega), high_tail _⟩
  rcases Nat.lt_or_ge c.toNat 0x10000 with h3 | h3
  · rw [encodeChar_three h2 h3, List.forall_mem_cons, List.forall_mem_cons,
      List.forall_mem_singleton]
    exact ⟨high_ofNat (by omega) (by omega), high_tail _, high_tail _⟩
  · rw [encodeChar_four h3, List.forall_mem_cons, List.forall_mem_cons, List.forall_mem_cons,
      List.forall_mem_singleton]
    exact ⟨high_ofNat (by omega) (by omega), high_tail _, high_tail _, high_tail _⟩

theorem mem_encodeChar_iff {b : UInt8} (hb : b.toNat < 0x80) :
    b ∈ utf8EncodeChar c ↔ c.toNat = b.toNat := by
  rcases Nat.lt_or_ge c.toNat 0x80 with h | h
  · rw [encodeChar_one h, List.mem_singleton]
    constructor
    · rintro rfl
      exact (toNat_ofNat_of_lt (by omega)).symm
    · intro hc
      rw [hc, UInt8.ofNat_toNat]
  · constructor
    · intro hmem
      have := high_of_mem_encodeChar h b hmem
      omega
    · omega

end

def Pending.InRange (p : Pending) : Prop :=
  0x80 ≤ p.low ∧ p.high ≤ 0xBF

theorem inRange_tail (bits size owed : Nat) : Pending.InRange ⟨bits, size, owed, 0x80, 0xBF⟩ :=
  ⟨UInt8.le_refl _, UInt8.le_refl _⟩

theorem inRange_ite {p q : Prop} [Decidable p] [Decidable q] {low high : UInt8}
    (hlow : 0x80 ≤ low) (hhigh : high ≤ 0xBF) (bits size owed : Nat) :
    Pending.InRange ⟨bits, size, owed, if p then low else 0x80, if q then high else 0xBF⟩ := by
  constructor
  · dsimp only
    split
    · exact hlow
    · exact UInt8.le_refl _
  · dsimp only
    split
    · exact hhigh
    · exact UInt8.le_refl _

section
variable {p : Pending} {bs : List UInt8} {c : Char} (range : p.InRange)
include range

theorem exists_tail {b : UInt8} (low : p.low ≤ b) (high : b ≤ p.high) :
    ∃ n, p.bits * 64 + b.toNat % 64 = n ∧ p.bits = n / 64 ∧ b = tail n := by
  refine ⟨_, rfl, by omega, ?_⟩
  exact eq_tail (UInt8.le_trans range.1 low) (UInt8.le_trans high range.2) (by omega)

theorem completes_last_iff (owed : p.owed = 1) :
    Completes p bs c ↔ ∃ n, p.bits = n / 64 ∧ p.low ≤ tail n ∧ tail n ≤ p.high ∧
      bs = [tail n] ∧ Char.ofNat n = c := by
  constructor
  · intro h
    cases h with
    | more owed' => omega
    | last _ low high value =>
      obtain ⟨n, hn, hbits, rfl⟩ := exists_tail range low high
      exact ⟨n, hbits, low, high, rfl, hn ▸ value⟩
  · rintro ⟨n, hbits, low, high, rfl, value⟩
    apply Completes.last (by omega) low high
    rw [toNat_tail, hbits, show n / 64 * 64 + (n % 64 + 0x80) % 64 = n by omega, value]

theorem completes_more_iff (owed : 1 < p.owed) :
    Completes p bs c ↔ ∃ n rest, p.bits = n / 64 ∧ p.low ≤ tail n ∧ tail n ≤ p.high ∧
      bs = tail n :: rest ∧ Completes ⟨n, p.size + 1, p.owed - 1, 0x80, 0xBF⟩ rest c := by
  constructor
  · intro h
    cases h with
    | last owed' => omega
    | more _ low high rest =>
      obtain ⟨n, hn, hbits, rfl⟩ := exists_tail range low high
      exact ⟨n, _, hbits, low, high, rfl, hn ▸ rest⟩
  · rintro ⟨n, rest, hbits, low, high, rfl, h⟩
    apply Completes.more owed low high
    rw [toNat_tail, hbits, show n / 64 * 64 + (n % 64 + 0x80) % 64 = n by omega]
    exact h

end

theorem completes_one_tail_iff {bits size : Nat} {bs : List UInt8} {c : Char} :
    Completes ⟨bits, size, 1, 0x80, 0xBF⟩ bs c ↔
      ∃ n, bits = n / 64 ∧ bs = [tail n] ∧ Char.ofNat n = c := by
  rw [completes_last_iff (inRange_tail _ _ _) rfl]
  constructor
  · rintro ⟨n, hbits, -, -, h⟩
    exact ⟨n, hbits, h⟩
  · rintro ⟨n, hbits, h⟩
    exact ⟨n, hbits, low_le_tail n, tail_le_high n, h⟩

theorem completes_two_tail_iff {bits size : Nat} {bs : List UInt8} {c : Char} :
    Completes ⟨bits, size, 2, 0x80, 0xBF⟩ bs c ↔
      ∃ n, bits = n / 4096 ∧ bs = [tail (n / 64), tail n] ∧ Char.ofNat n = c := by
  rw [completes_more_iff (inRange_tail _ _ _) (show 1 < 2 by decide)]
  constructor
  · rintro ⟨m, rest, hbits, -, -, rfl, h⟩
    obtain ⟨n, rfl, rfl, value⟩ := completes_one_tail_iff.1 h
    exact ⟨n, by dsimp only at hbits; omega, rfl, value⟩
  · rintro ⟨n, hbits, rfl, value⟩
    refine ⟨n / 64, _, ?_, low_le_tail _, tail_le_high _, rfl, ?_⟩
    · dsimp only
      omega
    · exact completes_one_tail_iff.2 ⟨n, rfl, rfl, value⟩

theorem spells_iff_of_whole {b : UInt8} {d : Char} {bs : List UInt8} {c : Char}
    (h : start b = .whole d) : Spells (b :: bs) c ↔ bs = [] ∧ c = d := by
  constructor
  · intro hs
    cases hs with
    | whole first =>
      rw [h] at first
      exact ⟨rfl, (Start.whole.inj first).symm⟩
    | begun first rest =>
      rw [h] at first
      cases first
  · rintro ⟨rfl, rfl⟩
    exact Spells.whole h

theorem not_spells_of_bad {b : UInt8} {bs : List UInt8} {c : Char} (h : start b = .bad) :
    ¬Spells (b :: bs) c := by
  intro hs
  cases hs with
  | whole first =>
    rw [h] at first
    cases first
  | begun first rest =>
    rw [h] at first
    cases first

theorem spells_iff_of_begun {b : UInt8} {p : Pending} {bs : List UInt8} {c : Char}
    (h : start b = .begun p) : Spells (b :: bs) c ↔ Completes p bs c := by
  constructor
  · intro hs
    cases hs with
    | whole first =>
      rw [h] at first
      cases first
    | begun first rest =>
      rw [h] at first
      rw [Start.begun.inj first]
      exact rest
  · exact Spells.begun h

/-! The bytes that spell a character of two, three and four bytes, by the code point. -/

section
variable {b : UInt8} {bs : List UInt8} {c : Char}

theorem spells_two_iff (hlow : 0xC2 ≤ b.toNat) (hhigh : b.toNat < 0xE0) :
    Spells (b :: bs) c ↔ ∃ n, b.toNat - 0xC0 = n / 64 ∧ bs = [tail n] ∧ Char.ofNat n = c := by
  rw [spells_iff_of_begun (start_two hlow hhigh), completes_one_tail_iff]

theorem spells_three_iff (hlow : 0xE0 ≤ b.toNat) (hhigh : b.toNat < 0xF0) :
    Spells (b :: bs) c ↔ ∃ n, b.toNat - 0xE0 = n / 4096 ∧ 0x800 ≤ n ∧
      (n < 0xD800 ∨ 0xDFFF < n) ∧ bs = [tail (n / 64), tail n] ∧ Char.ofNat n = c := by
  rw [spells_iff_of_begun (start_three hlow hhigh),
    completes_more_iff (inRange_ite (by decide) (by decide) _ _ _) (show 1 < 2 by decide)]
  -- The range of the second byte rules out the long forms after 0xE0, the surrogates after 0xED.
  simp only [ite_le_tail_iff, tail_le_ite_iff, UInt8.reduceToNat]
  constructor
  · rintro ⟨m, rest, hbits, hE0, hED, rfl, h⟩
    obtain ⟨n, rfl, rfl, value⟩ := completes_one_tail_iff.1 h
    exact ⟨n, by omega, by omega, by omega, rfl, value⟩
  · rintro ⟨n, hbits, hlong, hsurrogate, rfl, value⟩
    refine ⟨n / 64, _, by omega, by omega, by omega, rfl, ?_⟩
    exact completes_one_tail_iff.2 ⟨n, rfl, rfl, value⟩

theorem spells_four_iff (hlow : 0xF0 ≤ b.toNat) (hhigh : b.toNat < 0xF5) :
    Spells (b :: bs) c ↔ ∃ n, b.toNat - 0xF0 = n / 262144 ∧ 0x10000 ≤ n ∧ n < 0x110000 ∧
      bs = [tail (n / 4096), tail (n / 64), tail n] ∧ Char.ofNat n = c := by
  rw [spells_iff_of_begun (start_four hlow hhigh),
    completes_more_iff (inRange_ite (by decide) (by decide) _ _ _) (show 1 < 3 by decide)]
  simp only [ite_le_tail_iff, tail_le_ite_iff, UInt8.reduceToNat]
  constructor
  · rintro ⟨m, rest, hbits, hF0, hF4, rfl, h⟩
    obtain ⟨n, rfl, rfl, value⟩ := completes_two_tail_iff.1 h
    exact ⟨n, by omega, by omega, by omega, rfl, value⟩
  · rintro ⟨n, hbits, hlong, hlast, rfl, value⟩
    refine ⟨n / 4096, _, by omega, by omega, by omega, rfl, ?_⟩
    exact completes_two_tail_iff.2 ⟨n, rfl, rfl, value⟩

end

theorem eq_encodeChar_of_spells {bs : List UInt8} {c : Char} (h : Spells bs c) :
    bs = utf8EncodeChar c := by
  cases bs with
  | nil => cases h
  | cons b bs =>
    rcases start_cases b with ⟨hone, hs⟩ | ⟨hlow, hhigh, -⟩ | ⟨hlow, hhigh, -⟩ |
      ⟨hlow, hhigh, -⟩ | hs
    · obtain ⟨rfl, rfl⟩ := (spells_iff_of_whole hs).1 h
      have hn := toNat_char_ofNat (n := b.toNat) (.inl (by omega))
      rw [encodeChar_one (by omega), hn, UInt8.ofNat_toNat]
    · obtain ⟨n, hb, rfl, rfl⟩ := (spells_two_iff hlow hhigh).1 h
      have hn := toNat_char_ofNat (n := n) (.inl (by omega))
      rw [encodeChar_two (by omega) (by omega), hn, ← eq_ofNat (b := b) (by omega)]
    · obtain ⟨n, hb, hlong, hsurrogate, rfl, rfl⟩ := (spells_three_iff hlow hhigh).1 h
      have hn := toNat_char_ofNat (n := n) (hsurrogate.imp_right fun h => ⟨h, by omega⟩)
      rw [encodeChar_three (by omega) (by omega), hn, ← eq_ofNat (b := b) (by omega)]
    · obtain ⟨n, hb, hlong, hlast, rfl, rfl⟩ := (spells_four_iff hlow hhigh).1 h
      have hn := toNat_char_ofNat (n := n) (.inr ⟨by omega, hlast⟩)
      rw [encodeChar_four (by omega), hn, ← eq_ofNat (b := b) (by omega)]
    · exact absurd h (not_spells_of_bad hs)

theorem spells_encodeChar (c : Char) : Spells (utf8EncodeChar c) c := by
  have hvalid : c.toNat < 0xD800 ∨ 0xDFFF < c.toNat ∧ c.toNat < 0x110000 := c.valid
  rcases Nat.lt_or_ge c.toNat 0x80 with h1 | h1
  · have hb := toNat_ofNat_of_lt (n := c.toNat) (by omega)
    rw [encodeChar_one h1]
    apply Spells.whole
    rw [start_one (by omega), hb, Char.ofNat_toNat]
  rcases Nat.lt_or_ge c.toNat 0x800 with h2 | h2
  · have hb := toNat_ofNat_of_lt (n := c.toNat / 64 % 0x20 + 0xC0) (by omega)
    rw [encodeChar_two h1 h2, spells_two_iff (by omega) (by omega)]
    exact ⟨c.toNat, by omega, rfl, c.ofNat_toNat⟩
  rcases Nat.lt_or_ge c.toNat 0x10000 with h3 | h3
  · have hb := toNat_ofNat_of_lt (n := c.toNat / 4096 % 0x10 + 0xE0) (by omega)
    rw [encodeChar_three h2 h3, spells_three_iff (by omega) (by omega)]
    exact ⟨c.toNat, by omega, h2, by omega, rfl, c.ofNat_toNat⟩
  · have hb := toNat_ofNat_of_lt (n := c.toNat / 262144 % 0x08 + 0xF0) (by omega)
    rw [encodeChar_four h3, spells_four_iff (by omega) (by omega)]
    exact ⟨c.toNat, by omega, h3, by omega, rfl, c.ofNat_toNat⟩

theorem spells_iff {bs : List UInt8} {c : Char} : Spells bs c ↔ bs = utf8EncodeChar c := by
  constructor
  · exact eq_encodeChar_of_spells
  · rintro rfl
    exact spells_encodeChar c

end MarkupAudit.Text.Utf8
