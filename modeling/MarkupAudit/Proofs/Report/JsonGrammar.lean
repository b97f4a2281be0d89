import Mathlib.Algebra.Field.Rat
import MarkupAudit.Text.Utf8

/-! The grammar of JSON texts: values, the tokens they are written with, and the spellings of each
token. Any blanks may stand between tokens. Strings may use every escape, surrogate pairs included;
a number stands for its exact value. -/
namespace MarkupAudit.JsonText

inductive Scalar where
  | null
  | bool (b : Bool)
  | number (q : Rat)
  | string (s : String)
  deriving DecidableEq, Repr

/-- The members of an object are kept in their order, with repetitions. -/
inductive Value where
  | scalar (s : Scalar)
  | array (items : List Value)
  | object (members : List (String × Value))
  deriving Repr

inductive Token where
  | scalar (s : Scalar)
  | beginArray
  | endArray
  | beginObject
  | endObject
  | colon
  | comma
  deriving DecidableEq, Repr

mutual

def Value.tokens : Value → List Token
  | .scalar s => [.scalar s]
  | .array [] => [.beginArray, .endArray]
  | .array (v :: items) => .beginArray :: (v.tokens ++ (moreItems items ++ [.endArray]))
  | .object [] => [.beginObject, .endObject]
  | .object ((key, v) :: members) =>
    .beginObject :: .scalar (.string key) :: .colon ::
      (v.tokens ++ (moreMembers members ++ [.endObject]))

def moreItems : List Value → List Token
  | [] => []
  | v :: items => .comma :: (v.tokens ++ moreItems items)

def moreMembers : List (String × Value) → List Token
  | [] => []
  | (key, v) :: members =>
    .comma :: .scalar (.string key) :: .colon :: (v.tokens ++ moreMembers members)

end

/-! Strings. -/

def shortEscapes : List (Char × Char) :=
  [('\x22', '\x22'), ('\\', '\\'), ('/', '/'), ('b', '\x08'), ('f', '\x0C'), ('n', '\n'),
    ('r', '\r'), ('t', '\t')]

def IsCodeUnit (digits : List Char) (n : Nat) : Prop :=
  digits.length = 4 ∧ Text.Utf8.hexValue? digits = some n

/-- How a character can be spelled in a string: as itself, unless it ends the string, begins an
escape or is a control character, by a short escape, or by its code units. -/
inductive CharSpelled (c : Char) : List Char → Prop
  | raw (quote : c ≠ '\x22') (backslash : c ≠ '\\') (control : 0x20 ≤ c.toNat) : CharSpelled c [c]
  | short {letter : Char} (known : shortEscapes.lookup letter = some c) :
    CharSpelled c ['\\', letter]
  | unit {digits : List Char} (value : IsCodeUnit digits c.toNat) :
    CharSpelled c ('\\' :: 'u' :: digits)
  | pair {high low : List Char} (large : 0x10000 ≤ c.toNat)
    (highValue : IsCodeUnit high (0xD800 + (c.toNat - 0x10000) / 0x400))
    (lowValue : IsCodeUnit low (0xDC00 + (c.toNat - 0x10000) % 0x400)) :
    CharSpelled c ('\\' :: 'u' :: (high ++ '\\' :: 'u' :: low))

inductive CharsSpelled : List Char → List Char → Prop
  | nil : CharsSpelled [] []
  | cons {c : Char} {cs spelled more : List Char} (first : CharSpelled c spelled)
    (rest : CharsSpelled cs more) : CharsSpelled (c :: cs) (spelled ++ more)

/-! Numbers. -/

def IsDigits (digits : List Char) : Prop :=
  digits ≠ [] ∧ ∀ c ∈ digits, c.isDigit

instance (digits : List Char) : Decidable (IsDigits digits) :=
  inferInstanceAs (Decidable (_ ∧ _))

def digitsValue (digits : List Char) : Nat :=
  Nat.ofDigitChars 10 digits 0

structure Exponent where
  mark : Char
  negative? : Option Bool
  digits : List Char
  deriving DecidableEq

structure Numeral where
  negative : Bool
  whole : List Char
  fraction? : Option (List Char)
  exponent? : Option Exponent
  deriving DecidableEq

def Exponent.chars (e : Exponent) : List Char :=
  e.mark :: ((match e.negative? with
    | none => []
    | some false => ['+']
    | some true => ['-']) ++ e.digits)

def Exponent.value (e : Exponent) : Int :=
  if e.negative? = some true then -digitsValue e.digits else digitsValue e.digits

def fractionChars : Option (List Char) → List Char
  | none => []
  | some digits => '.' :: digits

def exponentChars : Option Exponent → List Char
  | none => []
  | some e => e.chars

namespace Numeral

def chars (n : Numeral) : List Char :=
  (if n.negative then ['-'] else []) ++
    (n.whole ++ (fractionChars n.fraction? ++ exponentChars n.exponent?))

def value (n : Numeral) : Rat :=
  let fraction := n.fraction?.getD []
  let scale := (n.exponent?.elim 0 Exponent.value) - fraction.length
  (if n.negative then -1 else 1) * digitsValue (n.whole ++ fraction) * 10 ^ scale

/-- There are no empty runs of digits, and no zero before other digits. -/
structure WellFormed (n : Numeral) : Prop where
  whole : IsDigits n.whole
  leading : n.whole = ['0'] ∨ n.whole.head? ≠ some '0'
  fraction : ∀ digits ∈ n.fraction?, IsDigits digits
  exponent : ∀ e ∈ n.exponent?, (e.mark = 'e' ∨ e.mark = 'E') ∧ IsDigits e.digits

end Numeral

/-! Texts. -/

inductive Scalar.Spelled : Scalar → List Char → Prop
  | null : Spelled .null ['n', 'u', 'l', 'l']
  | boolTrue : Spelled (.bool true) ['t', 'r', 'u', 'e']
  | boolFalse : Spelled (.bool false) ['f', 'a', 'l', 's', 'e']
  | number {n : Numeral} (h : n.WellFormed) : Spelled (.number n.value) n.chars
  | string {s : String} {body : List Char} (h : CharsSpelled s.toList body) :
    Spelled (.string s) ('\x22' :: (body ++ ['\x22']))

def structurals : List (Char × Token) :=
  [('[', .beginArray), (']', .endArray), ('\x7b', .beginObject), ('\x7d', .endObject),
    (':', .colon), (',', .comma)]

inductive Token.Spelled : Token → List Char → Prop
  | scalar {s : Scalar} {cs : List Char} (h : s.Spelled cs) : Spelled (.scalar s) cs
  | structural {t : Token} {c : Char} (h : structurals.lookup c = some t) : Spelled t [c]

def blanks : List Char := [' ', '\t', '\n', '\r']

/-- Whether characters are those of tokens, one after the other, and of blanks between them. -/
inductive Spaced : List Token → List Char → Prop
  | nil : Spaced [] []
  | blank {c : Char} {ts : List Token} {cs : List Char} (h : c ∈ blanks) (rest : Spaced ts cs) :
    Spaced ts (c :: cs)
  | token {t : Token} {ts : List Token} {spelled cs : List Char} (first : t.Spelled spelled)
    (rest : Spaced ts cs) : Spaced (t :: ts) (spelled ++ cs)

/-- Whether a text is a JSON text of a value. -/
def Written (v : Value) (text : String) : Prop :=
  Spaced v.tokens text.toList

end MarkupAudit.JsonText
