/-! The lexemes of component source files. A lexeme is a function from the text ahead to the number
of characters that it takes there, or nothing where it does not occur. -/
namespace MarkupAudit.Grammar

abbrev Lexeme := List Char → Option Nat

def run (p : Char → Bool) : List Char → Nat
  | [] => 0
  | c :: cs => if p c then run p cs + 1 else 0

def startsWith : List Char → List Char → Bool
  | [], _ => true
  | _, [] => false
  | a :: as, b :: bs => a == b && startsWith as bs

def literal (s : List Char) : Lexeme := fun cs =>
  if startsWith s cs then some s.length else none

/-- A character sequence that none of the given ones continues. -/
def literalNot (s : List Char) (longer : List (List Char)) : Lexeme := fun cs =>
  if startsWith s cs && !longer.any (startsWith · (cs.drop s.length)) then some s.length else none

def repeated (p : Char → Bool) : Lexeme := fun cs =>
  match run p cs with
  | 0 => none
  | n + 1 => some (n + 1)

def Lexeme.then (a b : Lexeme) : Lexeme := fun cs =>
  (a cs).bind fun n => (b (cs.drop n)).map (n + ·)

def Lexeme.or (a b : Lexeme) : Lexeme := fun cs =>
  (a cs).or (b cs)

def Lexeme.optional (a : Lexeme) : Lexeme := fun cs =>
  some ((a cs).getD 0)

def longest (ls : List Lexeme) : Lexeme := fun cs =>
  ls.foldl (fun best l =>
    match best, l cs with
    | some m, some n => some (max m n)
    | none, found => found
    | found, none => found) none

/-! ### Characters -/

def isSpace (c : Char) : Bool :=
  let n := c.toNat
  (9 ≤ n && n ≤ 13) || n == 0x20 || n == 0xA0 || n == 0x1680 || (0x2000 ≤ n && n ≤ 0x200B) ||
    n == 0x2028 || n == 0x2029 || n == 0x202F || n == 0x205F || n == 0x2060 || n == 0x3000 ||
    n == 0xFEFF

def isLineEnd (c : Char) : Bool :=
  c == '\n' || c.toNat == 0x2028 || c.toNat == 0x2029

/-- Blank space inside running markup; the spaces that join words are not blank there. -/
def isTextSpace (c : Char) : Bool :=
  let n := c.toNat
  (9 ≤ n && n ≤ 13) || n == 0x20 || n == 0x1680 || (0x2000 ≤ n && n ≤ 0x2006) ||
    (0x2008 ≤ n && n ≤ 0x200A) || n == 0x2028 || n == 0x2029 || n == 0x205F || n == 0x3000

def punctuation : List Char :=
  "\x60:;\x22\x27@#.,|^&<=>+-*/\\%?!~()[]\x7b\x7d".toList

def isWordPart (c : Char) : Bool :=
  0x1F < c.toNat && !isSpace c && !punctuation.contains c

def isWordStart (c : Char) : Bool :=
  isWordPart c && !c.isDigit

def isHex (c : Char) : Bool :=
  c.isDigit || ('a' ≤ c && c ≤ 'f') || ('A' ≤ c && c ≤ 'F')

/-! ### Blanks and comments -/

def toLineEnd (cs : List Char) : Nat :=
  run (fun c => !(isLineEnd c || c == '\r')) cs

def toCommentEnd : List Char → Option Nat
  | '*' :: '/' :: _ => some 2
  | _ :: cs => (toCommentEnd cs).map (· + 1)
  | [] => none

/-- The length of a comment. One that is not closed is none. -/
def comment : Lexeme := fun cs =>
  match cs with
  | '/' :: '/' :: rest => some (2 + toLineEnd rest)
  | '/' :: '*' :: rest => (toCommentEnd rest).map (2 + ·)
  | _ => none

/-- The text after the blanks and comments in front, how many bytes they take, and whether a line
ends among the blanks; `inside` characters of a comment are still to be passed. -/
def skipBlanks (bytes : Nat) (lineBreak : Bool) : Nat → List Char → List Char × Nat × Bool
  | _, [] => ([], bytes, lineBreak)
  | inside + 1, c :: rest => skipBlanks (bytes + c.utf8Size) lineBreak inside rest
  | 0, c :: rest =>
    if isSpace c then skipBlanks (bytes + c.utf8Size) (lineBreak || isLineEnd c) 0 rest
    else
      match comment (c :: rest) with
      | some (n + 1) => skipBlanks (bytes + c.utf8Size) lineBreak n rest
      | _ => (c :: rest, bytes, lineBreak)

/-! ### Words -/

def fourHex : Lexeme := fun cs =>
  if (cs.take 4).length == 4 && (cs.take 4).all isHex then some 4 else none

def bracedHex : Lexeme :=
  ((literal ['\x7b']).then (repeated isHex)).then (literal ['\x7d'])

def escapedLetter : Lexeme :=
  (literal ['\\', 'u']).then (fourHex.or bracedHex)

/-- The length of the rest of a word, the first `inside` characters being those of an escape. -/
def wordRest : Nat → List Char → Nat
  | _, [] => 0
  | inside + 1, _ :: cs => 1 + wordRest inside cs
  | 0, c :: cs =>
    if isWordPart c then 1 + wordRest 0 cs
    else
      match escapedLetter (c :: cs) with
      | some (n + 1) => 1 + wordRest n cs
      | _ => 0

def word : Lexeme := fun cs =>
  match cs with
  | [] => none
  | c :: rest =>
    if isWordStart c then some (1 + wordRest 0 rest)
    else (escapedLetter cs).map fun n => wordRest n cs

def keyword (s : List Char) : Lexeme := fun cs =>
  match word cs with
  | some n => if n == s.length && startsWith s cs then some n else none
  | none => none

def wordNot (reserved : List (List Char)) : Lexeme := fun cs =>
  match word cs with
  | some n => if reserved.contains (cs.take n) then none else some n
  | none => none

def wordAmong (words : List (List Char)) : Lexeme := fun cs =>
  match word cs with
  | some n => if words.contains (cs.take n) then some n else none
  | none => none

def privateName : Lexeme := (literal ['#']).then word

/-! ### Numbers -/

def digits (p : Char → Bool) : Lexeme := fun cs =>
  match cs with
  | [] => none
  | c :: rest => if p c then some (1 + more rest) else none
where
  /-- Further digits, each alone or after an underscore. -/
  more : List Char → Nat
    | '_' :: c :: rest => if p c then 2 + more rest else 0
    | c :: rest => if p c then 1 + more rest else 0
    | [] => 0

def based (letters : List Char) (p : Char → Bool) : Lexeme :=
  ((literal ['0']).then fun cs =>
    match cs with
    | c :: _ => if letters.contains c then some 1 else none
    | [] => none).then (digits p)

def decimalDigits : Lexeme := digits Char.isDigit

def exponent : Lexeme :=
  (((literal ['e']).or (literal ['E'])).then
    ((literal ['+']).or (literal ['-'])).optional).then decimalDigits

/-- The digits before a point or an exponent: a zero alone, or at most one in front. -/
def wholeDigits : Lexeme := fun cs =>
  match cs with
  | '0' :: c :: _ =>
    if '1' ≤ c && c ≤ '9' then decimalDigits cs else some 1
  | _ => decimalDigits cs

def hexNumber : Lexeme := based ['x', 'X'] isHex

def binaryNumber : Lexeme := based ['b', 'B'] fun c => c == '0' || c == '1'

def octalNumber : Lexeme := based ['o', 'O'] fun c => '0' ≤ c && c ≤ '7'

def number : Lexeme :=
  longest [hexNumber, binaryNumber, octalNumber, decimalDigits,
    ((wholeDigits.then (literal ['.'])).then decimalDigits.optional).then exponent.optional,
    ((literal ['.']).then decimalDigits).then exponent.optional,
    wholeDigits.then exponent,
    (((hexNumber.or binaryNumber).or octalNumber).or decimalDigits).then (literal ['n'])]

/-! ### Quoted text -/

def isOctal (c : Char) : Bool := '0' ≤ c && c ≤ '7'

def escape : Lexeme := fun cs =>
  match cs with
  | '\\' :: 'x' :: a :: b :: _ => if isHex a && isHex b then some 4 else none
  | '\\' :: 'u' :: rest => ((fourHex.or bracedHex) rest).map (2 + ·)
  | '\\' :: '\r' :: '\n' :: _ => some 3
  | '\\' :: 'x' :: _ => none
  | '\\' :: c :: rest => if isOctal c then some (2 + run isOctal (rest.take 2)) else some 2
  | _ => none

/-- The rest of a string up to and with its closing quote, on one line but for escaped line ends; its
first `inside` characters are those of an escape. -/
def stringRest (quote : Char) : Nat → List Char → Option Nat
  | _, [] => none
  | inside + 1, _ :: rest => (stringRest quote inside rest).map (1 + ·)
  | 0, c :: rest =>
    if c == quote then some 1
    else if c == '\\' then
      (escape (c :: rest)).bind fun n => (stringRest quote (n - 1) rest).map (1 + ·)
    else if c == '\n' || c == '\r' then none
    else (stringRest quote 0 rest).map (1 + ·)

def string : Lexeme := fun cs =>
  match cs with
  | c :: rest =>
    if c == '\x22' || c == '\x27' then (stringRest c 0 rest).map (1 + ·) else none
  | [] => none

/-- Text of a template up to its end or the next hole, the first `inside` characters being those of
an escape. -/
def templateText : Nat → List Char → Option Nat
  | _, [] => some 0
  | inside + 1, _ :: rest => (templateText inside rest).map (1 + ·)
  | 0, '\x60' :: _ => some 0
  | 0, '$' :: '\x7b' :: _ => some 0
  | 0, c :: rest =>
    if c == '\\' then
      (escape (c :: rest)).bind fun n => (templateText (n - 1) rest).map (1 + ·)
    else (templateText 0 rest).map (1 + ·)

def templateRun : Lexeme := fun cs =>
  match templateText 0 cs with
  | some (n + 1) => some (n + 1)
  | _ => none

/-- The rest of a regular expression up to its closing slash; a slash inside a class does not
close it. -/
def patternRest (inClass : Bool) : List Char → Option Nat
  | [] => none
  | '\n' :: _ => none
  | '\\' :: '\n' :: _ => none
  | '\\' :: _ :: rest => (patternRest inClass rest).map (2 + ·)
  | c :: rest =>
    if c == '/' && !inClass then some 1
    else
      (patternRest (if c == '[' then true else if c == ']' then false else inClass) rest).map
        (1 + ·)

def regularExpression : Lexeme := fun cs =>
  match cs with
  | '/' :: c :: rest =>
    if c == '/' || c == '*' then none
    else
      (patternRest false (c :: rest)).map fun n =>
        1 + n + run (fun c => 'a' ≤ c && c ≤ 'z') ((c :: rest).drop n)
  | _ => none

/-! ### Markup -/

def tagWord : Lexeme := fun cs =>
  let isStart (c : Char) := c.isAlpha || c == '_' || c == '$'
  let isPart (c : Char) := isStart c || c.isDigit
  match cs with
  | [] => none
  | c :: _ =>
    let n := run isPart cs
    if isStart c && (cs.drop n).head? == some '-' then
      some (n + run (fun c => isPart c || c == '-') (cs.drop n))
    else word cs

def characterReference : Lexeme := fun cs =>
  match cs with
  | '&' :: '#' :: x :: rest =>
    if x == 'x' || x == 'X' then
      closed 3 6 isHex rest
    else closed 2 5 Char.isDigit (x :: rest)
  | '&' :: rest => closed 1 30 Char.isAlpha rest
  | _ => none
where
  /-- Between one and `most` characters and a semicolon. -/
  closed (before most : Nat) (p : Char → Bool) (cs : List Char) : Option Nat :=
    let n := run p cs
    if 1 ≤ n && n ≤ most && (cs.drop n).head? == some ';' then some (before + n + 1) else none

/-- The rest of an attribute string up to and with its closing quote. An ampersand begins a
reference, or takes the next character with it; the first `inside` characters are so taken. -/
def attributeRest (quote : Char) : Nat → List Char → Option Nat
  | _, [] => none
  | inside + 1, _ :: rest => (attributeRest quote inside rest).map (1 + ·)
  | 0, c :: rest =>
    if c == '&' then
      match characterReference (c :: rest) with
      | some n => (attributeRest quote (n - 1) rest).map (1 + ·)
      | none =>
        match rest with
        | next :: _ =>
          if next.isAlpha || next == '#' then none else (attributeRest quote 1 rest).map (1 + ·)
        | [] => none
    else if c == quote then some 1
    else (attributeRest quote 0 rest).map (1 + ·)

def attributeString : Lexeme := fun cs =>
  match cs with
  | c :: rest =>
    if c == '\x22' || c == '\x27' then (attributeRest c 0 rest).map (1 + ·)
    else none
  | [] => none

def isTextChar (c : Char) : Bool :=
  !(['<', '>', '\x7b', '\x7d', '&', '\x00'].contains c)

def isLayout (atNewline : Bool) : List Char → Bool
  | [] => true
  | c :: cs =>
    if c == '\n' then isLayout true cs else atNewline && isTextSpace c && isLayout atNewline cs

def text : Lexeme := fun cs =>
  let n := run isTextChar cs
  if n == 0 || isLayout false (cs.take n) then none else some n

end MarkupAudit.Grammar
