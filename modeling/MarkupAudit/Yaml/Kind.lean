import MarkupAudit.Yaml.Timestamp

/-! What a node is: marked by a tag, or told from the spelling of a plain scalar. -/
namespace MarkupAudit.Yaml

inductive Kind where
  | null
  | bool
  | int
  | float
  | timestamp
  | binary
  | text
  /-- The key whose value is merged into the mapping around it. -/
  | merge
  /-- The key of the value that a mapping stands for where a scalar is asked for. -/
  | default
  | sequence
  | mapping
  | set
  | orderedMapping
  | pairs
  | unknown
  deriving DecidableEq, Repr

namespace Kind

def coreTags : List (String × Kind) :=
  [("null", null), ("bool", bool), ("int", int), ("float", float), ("timestamp", timestamp),
    ("binary", binary), ("str", text), ("merge", merge), ("value", Kind.default), ("seq", sequence),
    ("map", mapping), ("set", set), ("omap", orderedMapping), ("pairs", pairs)]

def coreTagStart : String := "tag:yaml.org,2002:"

def ofTag (tag : String) : Kind :=
  match coreTags.find? fun p => coreTagStart ++ p.1 == tag with
  | some p => p.2
  | none => unknown

/-! Spellings -/

def casings (words : List String) : List String :=
  words.flatMap fun w => [w, w.capitalize, w.toUpper]

def boolWords : List String := casings ["yes", "no", "true", "false", "on", "off"]

def nullWords : List String := ["", "~"] ++ casings ["null"]

def isSign (c : Char) : Bool := c = '+' || c = '-'

def dropSign : List Char → List Char
  | c :: rest => if isSign c then rest else c :: rest
  | [] => []

def isDigitOrMark (c : Char) : Bool := c.isDigit || c = '_'

def isOctalDigit (c : Char) : Bool := '0' ≤ c && c ≤ '7'

def isHexDigit (c : Char) : Bool :=
  c.isDigit || ('a' ≤ c && c ≤ 'f') || ('A' ≤ c && c ≤ 'F')

def isSixtieths : List Char → Bool
  | [] => true
  | ':' :: a :: b :: rest =>
    if b.isDigit then '0' ≤ a && a ≤ '5' && isSixtieths rest
    else a.isDigit && isSixtieths (b :: rest)
  | [':', a] => a.isDigit
  | _ => false

/-- Binary, octal and hexadecimal numbers have their own starts; a decimal one starts with another
digit, and parts of sixty may follow it. -/
def isInt (cs : List Char) : Bool :=
  match dropSign cs with
  | '0' :: 'b' :: rest => !rest.isEmpty && rest.all fun c => c = '0' || c = '1' || c = '_'
  | '0' :: 'x' :: rest => !rest.isEmpty && rest.all fun c => isHexDigit c || c = '_'
  | '0' :: rest => rest.all fun c => isOctalDigit c || c = '_'
  | c :: rest => c.isDigit && isSixtieths (rest.dropWhile isDigitOrMark)
  | [] => false

def isExponent : List Char → Bool
  | [] => true
  | e :: sign :: rest =>
    (e = 'e' || e = 'E') && isSign sign && !rest.isEmpty && rest.all Char.isDigit
  | _ => false

def infinityWords : List String := casings ["inf"]

def nanWords : List String := ["nan", "NaN", "NAN"]

def wholePart? : List Char → Option (List Char)
  | c :: rest => if c.isDigit then some (rest.dropWhile isDigitOrMark) else none
  | [] => none

def isPointed (cs : List Char) : Bool :=
  match wholePart? cs with
  | some ('.' :: rest) => isExponent (rest.dropWhile isDigitOrMark)
  | some rest =>
    let sixtieths := rest.takeWhile (· ≠ '.')
    let fraction := rest.dropWhile (· ≠ '.')
    !sixtieths.isEmpty && isSixtieths sixtieths && !fraction.isEmpty &&
      (fraction.drop 1).all isDigitOrMark
  | none => false

def isFloat (cs : List Char) : Bool :=
  isPointed (dropSign cs) ||
    (match dropSign cs with
      | '.' :: rest => infinityWords.contains (String.ofList rest)
      | _ => false) ||
    (match cs with
      | '.' :: rest =>
        nanWords.contains (String.ofList rest) ||
          (match wholePart? rest with
            | some rest => isExponent rest
            | none => false)
      | _ => false)

def ofPlain (s : String) : Kind :=
  if boolWords.contains s then bool
  else if isFloat s.toList then float
  else if isInt s.toList then int
  else if s == "<<" then merge
  else if nullWords.contains s then null
  else if Timestamp.isTimestamp s.toList then timestamp
  else if s == "=" then Kind.default
  else if ["!", "&", "*"].contains s then unknown
  else text

end Kind

end MarkupAudit.Yaml
