import Mathlib.Data.List.Chain
import MarkupAudit.Proofs.Report.JsonGrammar

/-! A reader of JSON texts: one machine cuts the characters into tokens, and another, with a stack,
makes a value of these. Every text of the grammar is read as the value it is written for, so that no
text is written for two values. -/
namespace MarkupAudit.JsonText

/-! Numbers and the words that stand for scalars. -/

instance (n : Numeral) : Decidable n.WellFormed :=
  decidable_of_iff (IsDigits n.whole ∧ (n.whole = ['0'] ∨ n.whole.head? ≠ some '0') ∧
      (∀ digits ∈ n.fraction?, IsDigits digits) ∧
      ∀ e ∈ n.exponent?, (e.mark = 'e' ∨ e.mark = 'E') ∧ IsDigits e.digits)
    ⟨fun ⟨whole, leading, fraction, exponent⟩ => ⟨whole, leading, fraction, exponent⟩,
      fun ⟨whole, leading, fraction, exponent⟩ => ⟨whole, leading, fraction, exponent⟩⟩

def readExponent? : List Char → Option Exponent
  | [] => none
  | mark :: rest =>
    some
      (if rest.head? = some '-' then ⟨mark, some true, rest.tail⟩
      else if rest.head? = some '+' then ⟨mark, some false, rest.tail⟩
      else ⟨mark, none, rest⟩)

def readFraction (cs : List Char) : Option (List Char) × List Char :=
  if cs.head? = some '.' then
    (some (cs.tail.takeWhile Char.isDigit), cs.tail.dropWhile Char.isDigit)
  else (none, cs)

def readUnsigned (negative : Bool) (cs : List Char) : Numeral :=
  let (fraction?, rest) := readFraction (cs.dropWhile Char.isDigit)
  ⟨negative, cs.takeWhile Char.isDigit, fraction?, readExponent? rest⟩

/-- The numeral that a word may be; whether it is one is seen by writing it down again. -/
def readNumeral (cs : List Char) : Numeral :=
  if cs.head? = some '-' then readUnsigned true cs.tail else readUnsigned false cs

def scalarOfWord? (word : List Char) : Option Scalar :=
  if word = ['n', 'u', 'l', 'l'] then some .null
  else if word = ['t', 'r', 'u', 'e'] then some (.bool true)
  else if word = ['f', 'a', 'l', 's', 'e'] then some (.bool false)
  else
    let n := readNumeral word
    if n.WellFormed ∧ n.chars = word then some (.number n.value) else none

/-! Tokens. -/

def breaks : List Char :=
  '\x22' :: (blanks ++ structurals.map Prod.fst)

/-- Where the cutting into tokens stands: between tokens, in a word, in a string with some
characters read, and there within an escape, perhaps after the first half of a pair. -/
inductive Place where
  | between
  | word (chars : List Char)
  | chars (read : List Char)
  | escape (read : List Char)
  | unit (read : List Char) (high? : Option Nat) (digits : List Char)
  | half (read : List Char) (high : Nat)
  | halfEscape (read : List Char) (high : Nat)

def enter (c : Char) : List Token × Place :=
  if c ∈ blanks then ([], .between)
  else if c = '\x22' then ([], .chars [])
  else
    match structurals.lookup c with
    | some t => ([t], .between)
    | none => ([], .word [c])

def ofPair? (high low : Nat) : Option Char :=
  if 0xDC00 ≤ low ∧ low < 0xE000 then
    some (Char.ofNat (0x10000 + (high - 0xD800) * 0x400 + (low - 0xDC00)))
  else none

def afterUnit (read : List Char) (n : Nat) : Option Nat → Option Place
  | some high => (ofPair? high n).map fun c => .chars (read ++ [c])
  | none =>
    if n < 0xD800 ∨ 0xE000 ≤ n then some (.chars (read ++ [Char.ofNat n]))
    else if n < 0xDC00 then some (.half read n)
    else none

def next : Place → Char → Option (List Token × Place)
  | .between, c => some (enter c)
  | .word cs, c =>
    if c ∈ breaks then (scalarOfWord? cs).map fun s => (.scalar s :: (enter c).1, (enter c).2)
    else some ([], .word (cs ++ [c]))
  | .chars read, c =>
    if c = '\x22' then some ([.scalar (.string (String.ofList read))], .between)
    else if c = '\\' then some ([], .escape read)
    else if c.toNat < 0x20 then none
    else some ([], .chars (read ++ [c]))
  | .escape read, c =>
    if c = 'u' then some ([], .unit read none [])
    else (shortEscapes.lookup c).map fun d => ([], .chars (read ++ [d]))
  | .unit read high? digits, c =>
    if digits.length < 3 then some ([], .unit read high? (digits ++ [c]))
    else
      (Text.Utf8.hexValue? (digits ++ [c])).bind fun n => (afterUnit read n high?).map fun p => ([], p)
  | .half read high, c => if c = '\\' then some ([], .halfEscape read high) else none
  | .halfEscape read high, c => if c = 'u' then some ([], .unit read (some high) []) else none

def lex : Place → List Char → Option (List Token)
  | .between, [] => some []
  | .word cs, [] => (scalarOfWord? cs).map fun s => [.scalar s]
  | _, [] => none
  | p, c :: cs => (next p c).bind fun (ts, p) => (lex p cs).map (ts ++ ·)

/-! Values. -/

inductive Frame where
  | array (items : List Value)
  | object (members : List (String × Value)) (key : String)

/-- What is expected next, or the value that is complete. -/
inductive Stage where
  | value
  | firstItem
  | firstKey
  | key (members : List (String × Value))
  | colon
  | complete (v : Value)

def begin (stack : List Frame) : Token → Option (List Frame × Stage)
  | .scalar s => some (stack, .complete (.scalar s))
  | .beginArray => some (stack, .firstItem)
  | .beginObject => some (stack, .firstKey)
  | _ => none

def advance : List Frame × Stage → Token → Option (List Frame × Stage)
  | (stack, .value), t => begin stack t
  | (stack, .firstItem), .endArray => some (stack, .complete (.array []))
  | (stack, .firstItem), t => begin (.array [] :: stack) t
  | (stack, .firstKey), .endObject => some (stack, .complete (.object []))
  | (stack, .firstKey), .scalar (.string key) => some (.object [] key :: stack, .colon)
  | (stack, .key members), .scalar (.string key) => some (.object members key :: stack, .colon)
  | (stack, .colon), .colon => some (stack, .value)
  | (.array items :: stack, .complete v), .comma => some (.array (items ++ [v]) :: stack, .value)
  | (.array items :: stack, .complete v), .endArray =>
    some (stack, .complete (.array (items ++ [v])))
  | (.object members key :: stack, .complete v), .comma =>
    some (stack, .key (members ++ [(key, v)]))
  | (.object members key :: stack, .complete v), .endObject =>
    some (stack, .complete (.object (members ++ [(key, v)])))
  | _, _ => none

def parse (ts : List Token) : Option Value :=
  match ts.foldlM advance ([], .value) with
  | some ([], .complete v) => some v
  | _ => none

def read (text : String) : Option Value :=
  (lex .between text.toList).bind parse

/-! Parsing. -/

theorem foldlM_cons_some {s s' : List Frame × Stage} {t : Token} {ts : List Token}
    (h : advance s t = some s') :
    (t :: ts).foldlM advance s = ts.foldlM advance s' := by
  rw [List.foldlM_cons, h]
  rfl

theorem advance_firstItem {stack : List Frame} {t : Token} (h : t ≠ .endArray) :
    advance (stack, .firstItem) t = advance (.array [] :: stack, .value) t := by
  cases t <;> first | rfl | exact absurd rfl h

theorem exists_tokens_eq_cons (v : Value) : ∃ t ts, v.tokens = t :: ts ∧ t ≠ .endArray := by
  cases v with
  | scalar s => exact ⟨_, _, by rw [Value.tokens], by simp⟩
  | array items => cases items <;> exact ⟨_, _, by rw [Value.tokens], by simp⟩
  | object members => rcases members with _ | ⟨⟨key, v⟩, members⟩ <;>
      exact ⟨_, _, by rw [Value.tokens], by simp⟩

theorem foldlM_firstItem (stack : List Frame) (v : Value) (ts : List Token) :
    (v.tokens ++ ts).foldlM advance (stack, .firstItem) =
      (v.tokens ++ ts).foldlM advance (.array [] :: stack, .value) := by
  obtain ⟨t, rest, htokens, ht⟩ := exists_tokens_eq_cons v
  rw [htokens, List.cons_append, List.foldlM_cons, List.foldlM_cons, advance_firstItem ht]

mutual

/-- The tokens of a value complete it, whatever surrounds it. -/
theorem foldlM_tokens (stack : List Frame) (ts : List Token) : ∀ v : Value,
    (v.tokens ++ ts).foldlM advance (stack, .value) = ts.foldlM advance (stack, .complete v)
  | .scalar s => by
    rw [Value.tokens, List.singleton_append, foldlM_cons_some rfl]
  | .array [] => by
    rw [Value.tokens, List.cons_append, foldlM_cons_some rfl, List.singleton_append,
      foldlM_cons_some rfl]
  | .array (v :: items) => by
    rw [Value.tokens, List.cons_append, foldlM_cons_some rfl, List.append_assoc, foldlM_firstItem,
      foldlM_tokens (.array [] :: stack) _ v, List.append_assoc, foldlM_moreItems]
    rfl
  | .object [] => by
    rw [Value.tokens, List.cons_append, foldlM_cons_some rfl, List.singleton_append,
      foldlM_cons_some rfl]
  | .object ((key, v) :: members) => by
    rw [Value.tokens, List.cons_append, foldlM_cons_some rfl, List.cons_append,
      foldlM_cons_some rfl, List.cons_append, foldlM_cons_some rfl, List.append_assoc,
      foldlM_tokens (.object [] key :: stack) _ v, List.append_assoc, foldlM_moreMembers]
    rfl

theorem foldlM_moreItems (stack : List Frame) (ts : List Token) (before : List Value) (v : Value) :
    ∀ items : List Value,
      (moreItems items ++ ([Token.endArray] ++ ts)).foldlM advance
          (.array before :: stack, .complete v) =
        ts.foldlM advance (stack, .complete (.array (before ++ v :: items)))
  | [] => by
    rw [moreItems, List.nil_append, List.singleton_append, foldlM_cons_some rfl]
  | w :: items => by
    rw [moreItems, List.cons_append, foldlM_cons_some rfl, List.append_assoc,
      foldlM_tokens (.array (before ++ [v]) :: stack) _ w, foldlM_moreItems, List.append_assoc]
    rfl

theorem foldlM_moreMembers (stack : List Frame) (ts : List Token)
    (before : List (String × Value)) (key : String) (v : Value) :
    ∀ members : List (String × Value),
      (moreMembers members ++ ([Token.endObject] ++ ts)).foldlM advance
          (.object before key :: stack, .complete v) =
        ts.foldlM advance (stack, .complete (.object (before ++ (key, v) :: members)))
  | [] => by
    rw [moreMembers, List.nil_append, List.singleton_append, foldlM_cons_some rfl]
  | (key', w) :: members => by
    rw [moreMembers, List.cons_append, foldlM_cons_some rfl, List.cons_append,
      foldlM_cons_some rfl, List.cons_append, foldlM_cons_some rfl, List.append_assoc,
      foldlM_tokens (.object (before ++ [(key, v)]) key' :: stack) _ w, foldlM_moreMembers,
      List.append_assoc]
    rfl

end

theorem parse_tokens (v : Value) : parse v.tokens = some v := by
  have h := foldlM_tokens [] [] v
  rw [List.append_nil] at h
  rw [parse, h]
  rfl

/-! Cutting strings. -/

theorem lex_cons (p : Place) (c : Char) (cs : List Char) :
    lex p (c :: cs) = (next p c).bind fun (ts, q) => (lex q cs).map (ts ++ ·) := by
  cases p <;> rfl

theorem lex_step {p q : Place} {c : Char} (h : next p c = some ([], q)) (cs : List Char) :
    lex p (c :: cs) = lex q cs := by
  rw [lex_cons, h]
  exact Option.map_id'

theorem lex_token {p q : Place} {c : Char} {t : Token} (h : next p c = some ([t], q))
    (cs : List Char) : lex p (c :: cs) = (lex q cs).map (t :: ·) := by
  rw [lex_cons, h]
  rfl

theorem lex_unit {digits read : List Char} {n : Nat} {high? : Option Nat} {q : Place}
    (h : IsCodeUnit digits n) (hafter : afterUnit read n high? = some q) (cs : List Char) :
    lex (.unit read high? []) (digits ++ cs) = lex q cs := by
  match digits, h with
  | [a, b, c, d], ⟨_, hvalue⟩ =>
    calc lex (.unit read high? []) (a :: b :: c :: d :: cs)
        = lex (.unit read high? [a]) (b :: c :: d :: cs) := lex_step rfl _
      _ = lex (.unit read high? [a, b]) (c :: d :: cs) := lex_step rfl _
      _ = lex (.unit read high? [a, b, c]) (d :: cs) := lex_step rfl _
      _ = lex q cs := lex_step (by simp [next, hvalue, hafter]) _

theorem afterUnit_of_char (read : List Char) (c : Char) :
    afterUnit read c.toNat none = some (.chars (read ++ [c])) := by
  have hvalid : c.toNat < 0xD800 ∨ 0xE000 ≤ c.toNat := by
    have h := c.valid
    rcases h with h | h
    · exact .inl h
    · exact .inr h.1
  rw [afterUnit, if_pos hvalid, Char.ofNat_toNat]

theorem ofPair?_of_char {c : Char} (large : 0x10000 ≤ c.toNat) :
    ofPair? (0xD800 + (c.toNat - 0x10000) / 0x400) (0xDC00 + (c.toNat - 0x10000) % 0x400) =
      some c := by
  have hcode : 0x10000 + (0xD800 + (c.toNat - 0x10000) / 0x400 - 0xD800) * 0x400 +
      (0xDC00 + (c.toNat - 0x10000) % 0x400 - 0xDC00) = c.toNat := by
    omega
  rw [ofPair?, if_pos (by omega), hcode, Char.ofNat_toNat]

theorem lex_char {c : Char} {spelled : List Char} (h : CharSpelled c spelled)
    (read cs : List Char) :
    lex (.chars read) (spelled ++ cs) = lex (.chars (read ++ [c])) cs := by
  have hescape : ∀ ds, lex (.chars read) ('\\' :: ds) = lex (.escape read) ds := lex_step rfl
  cases h with
  | raw quote backslash control =>
    exact lex_step (by simp [next, quote, backslash, Nat.not_lt.2 control]) cs
  | @short letter known =>
    have hletter : letter ≠ 'u' := by
      rintro rfl
      cases known
    rw [List.cons_append, hescape]
    exact lex_step (by simp [next, hletter, known]) cs
  | @unit digits value =>
    rw [List.cons_append, hescape, List.cons_append, lex_step rfl]
    exact lex_unit value (afterUnit_of_char read c) cs
  | @pair high low large highValue lowValue =>
    have hsmall : c.toNat < 0x110000 := by
      rcases c.valid with h | h
      · exact h.trans (by decide)
      · exact h.2
    have hhalf : afterUnit read (0xD800 + (c.toNat - 0x10000) / 0x400) none =
        some (.half read (0xD800 + (c.toNat - 0x10000) / 0x400)) := by
      rw [afterUnit, if_neg (by omega), if_pos (by omega)]
    have hwhole : afterUnit read (0xDC00 + (c.toNat - 0x10000) % 0x400)
        (some (0xD800 + (c.toNat - 0x10000) / 0x400)) = some (.chars (read ++ [c])) := by
      rw [afterUnit, ofPair?_of_char large, Option.map_some]
    rw [List.cons_append, hescape, List.cons_append, lex_step rfl, List.append_assoc,
      lex_unit highValue hhalf, List.cons_append, lex_step rfl, List.cons_append, lex_step rfl]
    exact lex_unit lowValue hwhole cs

theorem lex_chars {cs body : List Char} (h : CharsSpelled cs body) (read rest : List Char) :
    lex (.chars read) (body ++ rest) = lex (.chars (read ++ cs)) rest := by
  induction h generalizing read with
  | nil => rw [List.nil_append, List.append_nil]
  | cons first _ ih => rw [List.append_assoc, lex_char first, ih, List.append_assoc]; rfl

theorem lex_string {s : String} {body : List Char} (h : CharsSpelled s.toList body)
    (cs : List Char) :
    lex .between ('\x22' :: (body ++ ['\x22']) ++ cs) =
      (lex .between cs).map (.scalar (.string s) :: ·) := by
  have hend : next (.chars s.toList) '\x22' = some ([.scalar (.string s)], .between) := by
    rw [next, if_pos rfl, String.ofList_toList]
  rw [List.cons_append, lex_step rfl, List.append_assoc, lex_chars h, List.nil_append]
  exact lex_token hend cs

/-! Cutting words. -/

theorem IsDigits.exists_cons {digits : List Char} (h : IsDigits digits) :
    ∃ d ds, digits = d :: ds ∧ d.isDigit := by
  obtain ⟨hne, hall⟩ := h
  obtain ⟨d, ds, rfl⟩ := List.exists_cons_of_ne_nil hne
  exact ⟨d, ds, rfl, hall d List.mem_cons_self⟩

theorem IsDigits.head?_append_ne {digits : List Char} (h : IsDigits digits) (rest : List Char)
    {c : Char} (hc : c.isDigit = false) : (digits ++ rest).head? ≠ some c := by
  obtain ⟨d, ds, rfl, hd⟩ := h.exists_cons
  rintro heq
  obtain rfl : d = c := Option.some.inj heq
  rw [hd] at hc
  cases hc

theorem takeWhile_isDigit_append {digits rest : List Char} (h : ∀ c ∈ digits, c.isDigit)
    (hrest : ∀ c ∈ rest.head?, c.isDigit = false) :
    (digits ++ rest).takeWhile Char.isDigit = digits ∧
      (digits ++ rest).dropWhile Char.isDigit = rest := by
  rw [List.takeWhile_append_of_pos h, List.dropWhile_append_of_pos h]
  cases rest with
  | nil => exact ⟨List.append_nil _, rfl⟩
  | cons c rest =>
    have hc := hrest c rfl
    simp [hc]

theorem readExponent?_exponentChars {e? : Option Exponent}
    (h : ∀ e ∈ e?, (e.mark = 'e' ∨ e.mark = 'E') ∧ IsDigits e.digits) :
    readExponent? (exponentChars e?) = e? := by
  cases e? with
  | none => rfl
  | some e =>
    obtain ⟨mark, negative?, digits⟩ := e
    have hdigits := (h _ rfl).2
    have hhead : ∀ c : Char, c.isDigit = false → digits.head? ≠ some c := fun c hc =>
      List.append_nil digits ▸ hdigits.head?_append_ne [] hc
    cases negative? with
    | none => simp [exponentChars, Exponent.chars, readExponent?, hhead]
    | some negative => cases negative <;> rfl

theorem head?_exponentChars {e? : Option Exponent}
    (h : ∀ e ∈ e?, (e.mark = 'e' ∨ e.mark = 'E') ∧ IsDigits e.digits) :
    ∀ c ∈ (exponentChars e?).head?, c.isDigit = false ∧ c ≠ '.' := by
  cases e? with
  | none => simp [exponentChars]
  | some e =>
    intro c hc
    obtain rfl : e.mark = c := Option.some.inj hc
    rcases (h e rfl).1 with hmark | hmark <;> rw [hmark] <;> decide

theorem readFraction_fractionChars {f? : Option (List Char)} {e? : Option Exponent}
    (hf : ∀ digits ∈ f?, IsDigits digits)
    (he : ∀ e ∈ e?, (e.mark = 'e' ∨ e.mark = 'E') ∧ IsDigits e.digits) :
    readFraction (fractionChars f? ++ exponentChars e?) = (f?, exponentChars e?) := by
  cases f? with
  | none =>
    have hhead : (exponentChars e?).head? ≠ some '.' := fun h => (head?_exponentChars he _ h).2 rfl
    rw [fractionChars, List.nil_append, readFraction, if_neg hhead]
  | some digits =>
    obtain ⟨htake, hdrop⟩ := takeWhile_isDigit_append (hf digits rfl).2
      (fun c hc => (head?_exponentChars he c hc).1)
    rw [fractionChars, List.cons_append, readFraction, if_pos List.head?_cons,
      List.tail_cons, htake, hdrop]

theorem head?_fractionChars {f? : Option (List Char)} {e? : Option Exponent}
    (he : ∀ e ∈ e?, (e.mark = 'e' ∨ e.mark = 'E') ∧ IsDigits e.digits) :
    ∀ c ∈ (fractionChars f? ++ exponentChars e?).head?, c.isDigit = false := by
  cases f? with
  | none => exact fun c hc => (head?_exponentChars he c hc).1
  | some digits =>
    intro c hc
    cases hc
    rfl

theorem readNumeral_chars {n : Numeral} (h : n.WellFormed) : readNumeral n.chars = n := by
  obtain ⟨negative, whole, fraction?, exponent?⟩ := n
  obtain ⟨hwhole, -, hfraction, hexponent⟩ := h
  have hunsigned : readUnsigned negative
      (whole ++ (fractionChars fraction? ++ exponentChars exponent?)) =
        ⟨negative, whole, fraction?, exponent?⟩ := by
    obtain ⟨htake, hdrop⟩ := takeWhile_isDigit_append hwhole.2 (head?_fractionChars hexponent)
    rw [readUnsigned, htake, hdrop, readFraction_fractionChars hfraction hexponent]
    dsimp only
    rw [readExponent?_exponentChars hexponent]
  cases negative with
  | true => exact hunsigned
  | false =>
    change readNumeral (whole ++ _) = _
    rw [readNumeral, if_neg (hwhole.head?_append_ne _ rfl)]
    exact hunsigned

def marks : List Char := ['-', '+', '.', 'e', 'E']

theorem isDigit_or_mem_marks {n : Numeral} (h : n.WellFormed) :
    ∀ c ∈ n.chars, c.isDigit ∨ c ∈ marks := by
  obtain ⟨negative, whole, fraction?, exponent?⟩ := n
  obtain ⟨hwhole, -, hfraction, hexponent⟩ := h
  have hdigits : ∀ {digits : List Char}, IsDigits digits → ∀ c ∈ digits, c.isDigit ∨ c ∈ marks :=
    fun h c hc => .inl (h.2 c hc)
  simp only [Numeral.chars, List.forall_mem_append]
  refine ⟨?_, hdigits hwhole, ?_, ?_⟩
  · cases negative <;> simp [marks]
  · cases fraction? with
    | none => simp [fractionChars]
    | some digits => exact List.forall_mem_cons.2 ⟨.inr (by decide), hdigits (hfraction _ rfl)⟩
  · cases exponent? with
    | none => simp [exponentChars]
    | some e =>
      obtain ⟨hmark, hexponent⟩ := hexponent e rfl
      refine List.forall_mem_cons.2 ⟨.inr ?_, List.forall_mem_append.2 ⟨?_, hdigits hexponent⟩⟩
      · rcases hmark with hmark | hmark <;> rw [hmark] <;> decide
      · cases e.negative? with
        | none => simp
        | some negative => cases negative <;> simp [marks]

theorem notMem_breaks_of_mem_chars {n : Numeral} (h : n.WellFormed) : ∀ c ∈ n.chars, c ∉ breaks := by
  have hbreaks : breaks.all fun d => decide (d.isDigit = false ∧ d ∉ marks) := by decide
  intro c hc hbreak
  obtain ⟨hdigit, hmark⟩ := of_decide_eq_true (List.all_eq_true.1 hbreaks c hbreak)
  rcases isDigit_or_mem_marks h c hc with h | h
  · rw [hdigit] at h
    cases h
  · exact hmark h

theorem chars_ne {n : Numeral} (h : n.WellFormed) {word : List Char} (c : Char) (hc : c ∈ word)
    (hdigit : c.isDigit = false) (hmark : c ∉ marks) : n.chars ≠ word := by
  rintro rfl
  rcases isDigit_or_mem_marks h c hc with h | h
  · rw [hdigit] at h
    cases h
  · exact hmark h

theorem scalarOfWord?_chars {n : Numeral} (h : n.WellFormed) :
    scalarOfWord? n.chars = some (.number n.value) := by
  rw [scalarOfWord?, if_neg (chars_ne h 'u' (by decide) rfl (by decide)),
    if_neg (chars_ne h 'u' (by decide) rfl (by decide)),
    if_neg (chars_ne h 's' (by decide) rfl (by decide)), readNumeral_chars h]
  exact if_pos ⟨h, rfl⟩

theorem enter_of_notMem {c : Char} (h : c ∉ breaks) : enter c = ([], .word [c]) := by
  simp only [breaks, List.mem_cons, List.mem_append, not_or] at h
  obtain ⟨hquote, hblank, hstructural⟩ := h
  have hlookup : structurals.lookup c = none := by
    rw [List.lookup_eq_none_iff]
    exact fun p hp => bne_iff_ne.2 fun heq => hstructural (heq ▸ List.mem_map_of_mem hp)
  rw [enter, if_neg hblank, if_neg hquote, hlookup]

theorem enter_of_structural {c : Char} {t : Token} (h : structurals.lookup c = some t) :
    c ∈ structurals.map Prod.fst ∧ enter c = ([t], .between) := by
  have hchars : (structurals.map Prod.fst).all fun d => decide (d ∉ blanks ∧ d ≠ '\x22') := by
    decide
  obtain ⟨before, after, heq, -⟩ := List.lookup_eq_some_iff.1 h
  have hc : c ∈ structurals.map Prod.fst := by simp [heq]
  obtain ⟨hblank, hquote⟩ := of_decide_eq_true (List.all_eq_true.1 hchars c hc)
  refine ⟨hc, ?_⟩
  rw [enter, if_neg hblank, if_neg hquote, h]

theorem lex_word {word : List Char} (h : ∀ c ∈ word, c ∉ breaks) (before cs : List Char) :
    lex (.word before) (word ++ cs) = lex (.word (before ++ word)) cs := by
  induction word generalizing before with
  | nil => rw [List.nil_append, List.append_nil]
  | cons c word ih =>
    have hnext : next (.word before) c = some ([], .word (before ++ [c])) :=
      if_neg (h c List.mem_cons_self)
    rw [List.cons_append, lex_step hnext, ih fun d hd => h d (List.mem_cons_of_mem c hd),
      List.append_assoc, List.singleton_append]

theorem lex_wordEnd {word cs : List Char} {s : Scalar} (h : scalarOfWord? word = some s)
    (hcs : ∀ c ∈ cs.head?, c ∈ breaks) :
    lex (.word word) cs = (lex .between cs).map (.scalar s :: ·) := by
  cases cs with
  | nil =>
    change (scalarOfWord? word).map _ = _
    rw [h]
    rfl
  | cons c cs =>
    have hnext : next (.word word) c = some (.scalar s :: (enter c).1, (enter c).2) := by
      rw [next, if_pos (hcs c rfl), h]
      rfl
    have hbetween : next .between c = some ((enter c).1, (enter c).2) := rfl
    rw [lex_cons, hnext, lex_cons, hbetween, Option.bind_some, Option.bind_some, Option.map_map]
    rfl

theorem lex_scalarWord {word cs : List Char} {s : Scalar} (hne : word ≠ [])
    (hword : ∀ c ∈ word, c ∉ breaks) (hs : scalarOfWord? word = some s)
    (hcs : ∀ c ∈ cs.head?, c ∈ breaks) :
    lex .between (word ++ cs) = (lex .between cs).map (.scalar s :: ·) := by
  obtain ⟨c, word, rfl⟩ := List.exists_cons_of_ne_nil hne
  obtain ⟨hc, hword⟩ := List.forall_mem_cons.1 hword
  have hnext : next .between c = some ([], .word [c]) := congrArg some (enter_of_notMem hc)
  rw [List.cons_append, lex_step hnext, lex_word hword]
  exact lex_wordEnd hs hcs

theorem lex_letters {word cs : List Char} {s : Scalar} (hne : word ≠ [])
    (hword : word.all fun c => decide (c ∉ breaks)) (hs : scalarOfWord? word = some s)
    (hcs : ∀ c ∈ cs.head?, c ∈ breaks) :
    lex .between (word ++ cs) = (lex .between cs).map (.scalar s :: ·) :=
  lex_scalarWord hne (fun c hc => of_decide_eq_true (List.all_eq_true.1 hword c hc)) hs hcs

theorem lex_scalar {s : Scalar} {spelled cs : List Char} (h : s.Spelled spelled)
    (hcs : ∀ c ∈ cs.head?, c ∈ breaks) :
    lex .between (spelled ++ cs) = (lex .between cs).map (.scalar s :: ·) := by
  cases h with
  | null => exact lex_letters (by decide) (by decide) rfl hcs
  | boolTrue => exact lex_letters (by decide) (by decide) rfl hcs
  | boolFalse => exact lex_letters (by decide) (by decide) rfl hcs
  | @number n h =>
    obtain ⟨d, ds, hwhole, -⟩ := h.whole.exists_cons
    have hne : n.chars ≠ [] := by simp [Numeral.chars, hwhole]
    exact lex_scalarWord hne (notMem_breaks_of_mem_chars h) (scalarOfWord?_chars h) hcs
  | string h => exact lex_string h cs

/-! Cutting texts. -/

def Token.isScalar : Token → Bool
  | .scalar _ => true
  | _ => false

/-- Whether no two scalars come one right after the other. -/
def Apart (ts : List Token) : Prop :=
  ts.IsChain fun t u => t.isScalar = false ∨ u.isScalar = false

def Followable (ts : List Token) : Prop :=
  Apart ts ∧ ∀ t ∈ ts.head?, t.isScalar = false

theorem apart_cons {t : Token} {ts : List Token} (ht : t.isScalar = false) (h : Apart ts) :
    Apart (t :: ts) :=
  List.isChain_cons.2 ⟨fun _ _ => .inl ht, h⟩

theorem followable_cons {t : Token} {ts : List Token} (ht : t.isScalar = false) (h : Apart ts) :
    Followable (t :: ts) :=
  ⟨apart_cons ht h, fun _ hu => Option.some.inj hu ▸ ht⟩

theorem apart_scalar {s : Scalar} {ts : List Token} (h : Followable ts) :
    Apart (.scalar s :: ts) :=
  List.isChain_cons.2 ⟨fun u hu => .inr (h.2 u hu), h.1⟩

mutual

theorem apart_tokens {ts : List Token} (h : Followable ts) : ∀ v : Value, Apart (v.tokens ++ ts)
  | .scalar s => by
    rw [Value.tokens, List.singleton_append]
    exact apart_scalar h
  | .array [] => by
    rw [Value.tokens]
    exact apart_cons rfl (apart_cons rfl h.1)
  | .array (v :: items) => by
    rw [Value.tokens, List.cons_append, List.append_assoc, List.append_assoc]
    exact apart_cons rfl (apart_tokens (followable_moreItems h.1 items) v)
  | .object [] => by
    rw [Value.tokens]
    exact apart_cons rfl (apart_cons rfl h.1)
  | .object ((key, v) :: members) => by
    rw [Value.tokens, List.cons_append, List.cons_append, List.cons_append, List.append_assoc,
      List.append_assoc]
    exact apart_cons rfl (apart_scalar (followable_cons rfl
      (apart_tokens (followable_moreMembers h.1 members) v)))

theorem followable_moreItems {ts : List Token} (h : Apart ts) :
    ∀ items : List Value, Followable (moreItems items ++ ([.endArray] ++ ts))
  | [] => by
    rw [moreItems, List.nil_append]
    exact followable_cons rfl h
  | v :: items => by
    rw [moreItems, List.cons_append, List.append_assoc]
    exact followable_cons rfl (apart_tokens (followable_moreItems h items) v)

theorem followable_moreMembers {ts : List Token} (h : Apart ts) :
    ∀ members : List (String × Value), Followable (moreMembers members ++ ([.endObject] ++ ts))
  | [] => by
    rw [moreMembers, List.nil_append]
    exact followable_cons rfl h
  | (key, v) :: members => by
    rw [moreMembers, List.cons_append, List.cons_append, List.cons_append, List.append_assoc]
    exact followable_cons rfl (apart_scalar (followable_cons rfl
      (apart_tokens (followable_moreMembers h members) v)))

end

theorem head?_mem_breaks {ts : List Token} {cs : List Char} (h : Spaced ts cs)
    (hts : ∀ t ∈ ts.head?, t.isScalar = false) : ∀ c ∈ cs.head?, c ∈ breaks := by
  cases h with
  | nil => simp
  | blank h rest =>
    intro d hd
    obtain rfl := Option.some.inj hd
    simp [breaks, h]
  | token first rest =>
    cases first with
    | scalar h => cases hts _ rfl
    | structural h =>
      intro d hd
      obtain rfl := Option.some.inj hd
      simp [breaks, (enter_of_structural h).1]

theorem lex_spaced {ts : List Token} {cs : List Char} (h : Spaced ts cs) (hts : Apart ts) :
    lex .between cs = some ts := by
  induction h with
  | nil => rfl
  | @blank c ts cs h _ ih =>
    have hnext : next .between c = some ([], .between) := congrArg some (if_pos h)
    rw [lex_step hnext, ih hts]
  | @token t ts spelled cs first rest ih =>
    obtain ⟨hhead, htail⟩ := List.isChain_cons.1 hts
    cases first with
    | scalar h =>
      have hfollow : ∀ u ∈ ts.head?, u.isScalar = false := fun u hu =>
        (hhead u hu).resolve_left (by simp [Token.isScalar])
      rw [lex_scalar h (head?_mem_breaks rest hfollow), ih htail]
      rfl
    | @structural t c h =>
      have hnext : next .between c = some ([t], .between) :=
        congrArg some (enter_of_structural h).2
      rw [List.singleton_append, lex_token hnext, ih htail]
      rfl

theorem read_of_written {v : Value} {text : String} (h : Written v text) :
    read text = some v := by
  -- Scalars in a row would run into one word; in a value there is a mark between them.
  have hapart : Apart v.tokens := by
    rw [← List.append_nil v.tokens]
    exact apart_tokens ⟨List.isChain_nil, by simp⟩ v
  rw [read, lex_spaced h hapart]
  exact parse_tokens v

/-- A pair of code units is one character. -/
example : read " [true, \"\\ud83d\\ude00\\n\"]" =
    some (.array [.scalar (.bool true), .scalar (.string "😀\n")]) := by
  rfl

theorem written_unique {v w : Value} {text : String} (hv : Written v text) (hw : Written w text) :
    v = w := by
  rw [← Option.some_inj, ← read_of_written hv, read_of_written hw]

end MarkupAudit.JsonText
