import MarkupAudit.Text.Utf8
import MarkupAudit.Yaml.Scalar

/-! From characters to tokens. Blocks that indentation opens and closes have tokens of their own, so
that tokens are a matter of brackets and commas for whoever reads on. A scalar, an anchor or a bracket
may turn out to start a key once a colon follows it on its line, so places where a key may have
started are remembered, and the tokens that open the key are put in there afterwards. -/
namespace MarkupAudit.Yaml

/-- A line before a document that starts with a percent sign. Only two names mean something. -/
inductive Directive where
  | version (major : Nat)
  | tagHandle (handle expansion : String)
  | reserved
  deriving DecidableEq, Repr

inductive Token where
  | directive (d : Directive)
  | documentStart
  | documentEnd
  | blockSequenceStart
  | blockMappingStart
  | blockEnd
  | flowSequenceStart
  | flowSequenceEnd
  | flowMappingStart
  | flowMappingEnd
  | blockEntry
  | flowEntry
  | key
  | value
  | reference (name : String)
  | anchor (name : String)
  | tag (handle : Option String) (suffix : String)
  | scalar (text : String) (plain : Bool)
  | streamEnd
  deriving DecidableEq, Repr

/-- A place where a key may have started: before the token with the given number. A key that is the
first thing on a line as far in as its block has to turn out to be one. -/
structure KeyCandidate where
  token : Nat
  required : Bool
  offset : Nat
  line : Nat
  column : Nat

structure Lexer where
  cursor : Cursor
  tokens : Array Token := #[]
  /-- The brackets open. -/
  depth : Nat := 0
  /-- The column of the innermost block, and those of the blocks around it. -/
  indent : Int := -1
  outer : List Int := []
  keyAllowed : Bool := true
  /-- By the number of brackets open. -/
  candidates : List (Nat × KeyCandidate) := []

namespace Lexer

abbrev Step := Except Fault Lexer

def inFlow (l : Lexer) : Bool :=
  l.depth ≠ 0

def column (l : Lexer) : Int :=
  l.cursor.column

def emit (l : Lexer) (t : Token) : Lexer :=
  { l with tokens := l.tokens.push t }

def take (l : Lexer) (n : Nat) (t : Token) : Lexer :=
  { l.emit t with cursor := l.cursor.skip n }

def allowKey (l : Lexer) (allowed : Bool) : Lexer :=
  { l with keyAllowed := allowed }

/-- Blank space, comments and line ends. Outside brackets a key may start on the new line. -/
def skipBlank : Nat → Lexer → Lexer
  | 0, l => l
  | fuel + 1, l =>
    let c := l.cursor.skipWhile (· = ' ')
    let c := if c.next (· = '#') then c.skipWhile fun ch => !isBreak ch else c
    match c.lineBreak? with
    | some (_, c) => skipBlank fuel { l with cursor := c, keyAllowed := l.keyAllowed || !l.inFlow }
    | none => { l with cursor := c }

/-- A key ends on its line, and within so many characters. -/
def maxKeyLength : Nat := 1024

def isStale (l : Lexer) (k : KeyCandidate) : Bool :=
  k.line ≠ l.cursor.line || k.offset + maxKeyLength < l.cursor.offset

def giveUp (l : Lexer) (p : Nat × KeyCandidate → Bool) : Step :=
  if l.candidates.any fun k => p k && k.2.required then .error .malformed
  else .ok { l with candidates := l.candidates.filter fun k => !p k }

def giveUpHere (l : Lexer) : Step :=
  l.giveUp fun k => k.1 = l.depth

def dropStale (l : Lexer) : Step :=
  l.giveUp fun k => l.isStale k.2

/-- Remembers that a key may start with the next token. -/
def mayStartKey (l : Lexer) : Step :=
  if !l.keyAllowed then .ok l
  else do
    let l ← l.giveUpHere
    let c := l.cursor
    let candidate : KeyCandidate :=
      ⟨l.tokens.size, !l.inFlow && l.indent = l.column, c.offset, c.line, c.column⟩
    return { l with candidates := (l.depth, candidate) :: l.candidates }

def closeBlocks (column : Int) : List Int → Lexer → Lexer
  | [], l => l
  | outer :: rest, l =>
    if l.indent ≤ column then l
    else closeBlocks column rest { l.emit .blockEnd with indent := outer, outer := rest }

def closeTo (l : Lexer) (column : Int) : Lexer :=
  if l.inFlow then l else closeBlocks column l.outer l

def openBlock (l : Lexer) (column : Int) : Lexer :=
  { l with indent := column, outer := l.indent :: l.outer }

def openBlockHere (l : Lexer) (opening : Token) : Lexer :=
  if l.indent < l.column then (l.openBlock l.column).emit opening else l

/-! Tokens -/

def streamEnd (l : Lexer) : Step := do
  let l ← (l.closeTo (-1)).giveUpHere
  return { l.emit .streamEnd with candidates := [] }

def documentMarker (l : Lexer) (t : Token) : Step := do
  let l ← (l.closeTo (-1)).giveUpHere
  return (l.allowKey false).take 3 t

def openFlow (l : Lexer) (t : Token) : Step := do
  let l ← l.mayStartKey
  return { (l.allowKey true).take 1 t with depth := l.depth + 1 }

def closeFlow (l : Lexer) (t : Token) : Step := do
  let l ← l.giveUpHere
  return { (l.allowKey false).take 1 t with depth := l.depth - 1 }

def flowEntry (l : Lexer) : Step := do
  let l ← (l.allowKey true).giveUpHere
  return l.take 1 .flowEntry

/-- An entry, or a key that is marked as one. Outside brackets it stands only where a key may. -/
def blockMark (l : Lexer) (opening mark : Token) (keyAfter : Bool) : Step := do
  if !l.inFlow && !l.keyAllowed then .error .malformed
  let l := if l.inFlow then l else l.openBlockHere opening
  let l ← (l.allowKey keyAfter).giveUpHere
  return l.take 1 mark

def blockEntry (l : Lexer) : Step :=
  l.blockMark .blockSequenceStart .blockEntry true

def markedKey (l : Lexer) : Step :=
  l.blockMark .blockMappingStart .key (!l.inFlow)

def insertAt (l : Lexer) (n : Nat) (ts : Array Token) : Lexer :=
  { l with tokens := l.tokens.extract 0 n ++ ts ++ l.tokens.extract n l.tokens.size }

/-- A colon makes a key of what stood at the candidate, if there is one. -/
def valueMark (l : Lexer) : Step :=
  match l.candidates.lookup l.depth with
  | none => l.blockMark .blockMappingStart .value (!l.inFlow)
  | some k =>
    let l := { l with candidates := l.candidates.filter fun k => k.1 ≠ l.depth }
    let column : Int := k.column
    let l :=
      if !l.inFlow && l.indent < column then
        (l.openBlock column).insertAt k.token #[.blockMappingStart, .key]
      else l.insertAt k.token #[.key]
    .ok ((l.allowKey false).take 1 .value)

def anchorName (c : Cursor) : Except Fault (String × Cursor) :=
  let (name, c) := c.advance.span isWordChar
  if name.isEmpty || !c.endOr 0 (fun ch => isSeparator ch || "?:,]\x7d%@\x60".toList.contains ch) then
    .error .malformed
  else .ok (String.ofList name, c)

def named (l : Lexer) (token : String → Token) : Step := do
  let l ← l.mayStartKey
  let (name, c) ← anchorName l.cursor
  return { (l.allowKey false).emit (token name) with cursor := c }

def isUriChar (c : Char) : Bool :=
  c.isAlphanum || "-;/?:@&=+$,_.!~*\x27()[]%".toList.contains c

def uriEscapes : Nat → Cursor → Except Fault (List UInt8 × Cursor)
  | 0, c => .ok ([], c)
  | fuel + 1, c =>
    match c.rest with
    | '%' :: a :: b :: _ =>
      match Text.Utf8.hexValue? [a, b] with
      | none => .error .malformed
      | some n => (uriEscapes fuel (c.skip 3)).map fun (bs, c) => (UInt8.ofNat n :: bs, c)
    | '%' :: _ => .error .malformed
    | _ => .ok ([], c)

def uriText : Nat → Cursor → Reading
  | 0, c => .ok ([], c)
  | fuel + 1, c =>
    match c.peek? with
    | none => .ok ([], c)
    | some ch =>
      if ch = '%' then do
        let (bytes, c) ← uriEscapes (fuel + 1) c
        match Text.Utf8.decodeChars bytes with
        | .error _ => .error .malformed
        | .ok decoded =>
          let (cs, c) ← uriText fuel c
          return (decoded ++ cs, c)
      else if isUriChar ch then (uriText fuel c.advance).map fun (cs, c) => (ch :: cs, c)
      else .ok ([], c)

def uri (c : Cursor) : Reading := do
  if !c.next isUriChar then .error .malformed
  uriText c.rest.length c

/-- An exclamation mark alone, or a word between two of them. -/
def tagHandle (c : Cursor) : Reading :=
  match c.rest with
  | '!' :: ' ' :: _ => .ok (['!'], c.advance)
  | '!' :: _ =>
    let (word, after) := c.advance.span isWordChar
    if after.next (· = '!') then .ok ('!' :: word ++ ['!'], after.advance) else .error .malformed
  | _ => .error .malformed

def isSpaceOrBreak (c : Char) : Bool :=
  c = ' ' || isBreak c

def hasHandle (c : Cursor) : Bool :=
  (c.advance.rest.takeWhile fun ch => !isSpaceOrBreak ch).contains '!'

def tagParts (c : Cursor) : Except Fault (Option String × String × Cursor) := do
  let afterMark := c.advance
  if afterMark.next (· = '<') then
    let (name, c) ← uri (c.skip 2)
    if !c.next (· = '>') then .error .malformed
    return (none, String.ofList name, c.advance)
  else if afterMark.endOr 0 isSeparator then return (none, "!", afterMark)
  else
    let (handle, c) ← if hasHandle c then tagHandle c else .ok (['!'], afterMark)
    let (suffix, c) ← uri c
    return (some (String.ofList handle), String.ofList suffix, c)

def tag (l : Lexer) : Step := do
  let l ← l.mayStartKey
  let (handle, suffix, c) ← tagParts l.cursor
  if !c.endOr 0 isSpaceOrBreak then .error .malformed
  return { (l.allowKey false).emit (.tag handle suffix) with cursor := c }

def block (l : Lexer) (fold : Bool) : Step := do
  let l ← (l.allowKey true).giveUpHere
  let (text, c) ← blockScalar fold l.indent l.cursor.advance
  return { l.emit (.scalar (String.ofList text) false) with cursor := c }

def quotedScalar (l : Lexer) (read : Nat → Cursor → Reading) : Step := do
  let l ← l.mayStartKey
  let (text, c) ← read (l.cursor.rest.length + 1) l.cursor.advance
  return { (l.allowKey false).emit (.scalar (String.ofList text) false) with cursor := c }

def plainScalar (l : Lexer) : Step := do
  let l ← l.mayStartKey
  let s := plain l.inFlow (l.indent + 1) (l.cursor.rest.length + 1) l.cursor
  return { (l.allowKey s.endsLine).emit (.scalar (String.ofList s.text) true) with cursor := s.cursor }

def versionNumber (c : Cursor) : Except Fault (Nat × Cursor) :=
  let (digits, c) := c.span Char.isDigit
  match (String.ofList digits).toNat? with
  | some n => .ok (n, c)
  | none => .error .malformed

def endsWord (c : Cursor) : Bool :=
  c.endOr 0 isSpaceOrBreak

def versionDirective (c : Cursor) : Except Fault (Directive × Cursor) := do
  let (major, c) ← versionNumber (c.skipWhile (· = ' '))
  if !c.next (· = '.') then .error .malformed
  let (_, c) ← versionNumber c.advance
  if !endsWord c then .error .malformed
  return (.version major, c)

def tagDirective (c : Cursor) : Except Fault (Directive × Cursor) := do
  let (handle, c) ← tagHandle (c.skipWhile (· = ' '))
  if !c.next (· = ' ') then .error .malformed
  let (expansion, c) ← uri (c.skipWhile (· = ' '))
  if !endsWord c then .error .malformed
  return (.tagHandle (String.ofList handle) (String.ofList expansion), c)

def directive (l : Lexer) : Step := do
  let l ← (l.closeTo (-1)).giveUpHere
  let (name, c) := l.cursor.advance.span isWordChar
  if name.isEmpty || !endsWord c then .error .malformed
  let (d, c) ←
    if name == "YAML".toList then versionDirective c
    else if name == "TAG".toList then tagDirective c
    else .ok (.reserved, c.skipWhile fun ch => !isBreak ch)
  return { (l.allowKey false).emit (.directive d) with cursor := ← restOfLine c }

def indicators : List Char :=
  "-?:,[]\x7b\x7d#&*!|>\x27\x22%@\x60".toList

/-- A dash starts a scalar if no space follows it, and so do, outside brackets, a question mark and a
colon. -/
def startsPlain (l : Lexer) (ch : Char) : Bool :=
  !indicators.contains ch ||
    (!l.cursor.endOr 1 isSeparator && (ch = '-' || (!l.inFlow && (ch = '?' || ch = ':'))))

def token (l : Lexer) (ch : Char) : Step :=
  let standsAlone := l.cursor.endOr 1 isSeparator
  if ch = '%' && l.cursor.column = 0 then l.directive
  else if l.cursor.column = 0 && l.cursor.atDocumentStart then l.documentMarker .documentStart
  else if l.cursor.column = 0 && l.cursor.atDocumentEnd then l.documentMarker .documentEnd
  else if ch = '[' then l.openFlow .flowSequenceStart
  else if ch = '\x7b' then l.openFlow .flowMappingStart
  else if ch = ']' then l.closeFlow .flowSequenceEnd
  else if ch = '\x7d' then l.closeFlow .flowMappingEnd
  else if ch = ',' then l.flowEntry
  else if ch = '-' && standsAlone then l.blockEntry
  else if ch = '?' && (l.inFlow || standsAlone) then l.markedKey
  else if ch = ':' && (l.inFlow || standsAlone) then l.valueMark
  else if ch = '*' then l.named .reference
  else if ch = '&' then l.named .anchor
  else if ch = '!' then l.tag
  else if ch = '|' && !l.inFlow then l.block false
  else if ch = '>' && !l.inFlow then l.block true
  else if ch = '\x27' then l.quotedScalar singleQuoted
  else if ch = '\x22' then l.quotedScalar doubleQuoted
  else if !isSeparator ch && l.startsPlain ch then l.plainScalar
  else .error .malformed

/-- Reads the next token, with the ends of the blocks that it closes. -/
def step (l : Lexer) : Step := do
  let l ← (skipBlank (l.cursor.rest.length + 1) l).dropStale
  let l := l.closeTo l.column
  match l.cursor.peek? with
  | none => l.streamEnd
  | some ch => l.token ch

end Lexer

structure Tokens where
  tokens : List Token
  fault : Fault

/-- Every step takes at least a character or is the last one. -/
def runLexer : Nat → Lexer → Tokens
  | 0, l => ⟨l.tokens.toList, .malformed⟩
  | fuel + 1, l =>
    match l.step with
    | .error fault => ⟨l.tokens.toList, fault⟩
    | .ok l =>
      if l.tokens.back? = some .streamEnd then ⟨l.tokens.toList, .malformed⟩
      else runLexer fuel l

/-- A byte order mark in front is skipped; a text with a character that no document may hold has no
tokens. -/
def tokenize (text : String) : Tokens :=
  let cs := text.toList
  if cs.all isAllowed then
    let c : Cursor := ⟨cs, 0, 0, 0⟩
    runLexer (cs.length + 2) { cursor := if c.next (· = byteOrderMark) then c.advance else c }
  else ⟨[], .malformed⟩

end MarkupAudit.Yaml
