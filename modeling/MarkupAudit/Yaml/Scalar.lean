import MarkupAudit.Yaml.Cursor
import MarkupAudit.Yaml.Value

/-! The three ways to write a scalar: between quotes, plainly, and as an indented block. In all of
them lines are joined: a line end becomes a space, and an empty line stands for a line end. -/
namespace MarkupAudit.Yaml

abbrev Reading := Except Fault (List Char × Cursor)

/-- What a line end and the empty lines after it are read as. -/
def folded (lineEnd : Char) (empty : List Char) : List Char :=
  if lineEnd ≠ '\n' then lineEnd :: empty
  else if empty.isEmpty then [' ']
  else empty

/-! Quotes -/

def emptyLines : Nat → Cursor → Reading
  | 0, c => .ok ([], c)
  | fuel + 1, c =>
    if c.atDocumentMarker then .error .malformed
    else
      let c := c.skipWhile isSpaceOrTab
      match c.lineBreak? with
      | none => .ok ([], c)
      | some (b, c) => (emptyLines fuel c).map fun (bs, c) => (b :: bs, c)

def escapes : List (Char × Char) :=
  [('0', '\x00'), ('a', '\x07'), ('b', '\x08'), ('t', '\t'), ('\t', '\t'), ('n', '\n'),
    ('v', '\x0B'), ('f', '\x0C'), ('r', '\r'), ('e', '\x1B'), (' ', ' '), ('\x22', '\x22'),
    ('\\', '\\'), ('/', '/'), ('N', '\x85'), ('_', '\xA0'), ('L', '\u2028'), ('P', '\u2029')]

def numericEscapes : List (Char × Nat) :=
  [('x', 2), ('u', 4), ('U', 8)]

/-- The character of a code point; surrogates, which are none, become U+FFFD. -/
def charOfCode (n : Nat) : Except Fault Char :=
  if 0x10FFFF < n then .error (.scalar .codePoint)
  else if 0xD800 ≤ n && n ≤ 0xDFFF then .ok '\uFFFD'
  else .ok (Char.ofNat n)

def escape (fuel : Nat) (c : Cursor) : Reading :=
  match c.peek? with
  | none => .error .malformed
  | some letter =>
    match escapes.lookup letter, numericEscapes.lookup letter, c.lineBreak? with
    | some ch, _, _ => .ok ([ch], c.advance)
    | none, some width, _ =>
      let digits := c.advance.rest.take width
      match if digits.length = width then Text.Utf8.hexValue? digits else none with
      | none => .error .malformed
      | some n => (charOfCode n).map fun ch => ([ch], c.skip (width + 1))
    | none, none, some (_, c) => emptyLines fuel c
    | none, none, none => .error .malformed

/-- Spaces inside quotes: kept, unless a line ends after them. -/
def quotedSpaces (fuel : Nat) (c : Cursor) : Reading :=
  let (spaces, c) := c.span isSpaceOrTab
  match c.lineBreak? with
  | some (b, c) => (emptyLines fuel c).map fun (bs, c) => (folded b bs, c)
  | none => if c.atEnd then .error .malformed else .ok (spaces, c)

def singleQuoted : Nat → Cursor → Reading
  | 0, _ => .error .malformed
  | fuel + 1, c =>
    match c.rest with
    | [] => .error .malformed
    | '\x27' :: '\x27' :: _ => (singleQuoted fuel (c.skip 2)).map fun (cs, c) => ('\x27' :: cs, c)
    | '\x27' :: _ => .ok ([], c.advance)
    | ch :: _ =>
      if isSeparator ch then do
        let (spaces, c) ← quotedSpaces fuel c
        let (cs, c) ← singleQuoted fuel c
        return (spaces ++ cs, c)
      else (singleQuoted fuel c.advance).map fun (cs, c) => (ch :: cs, c)

def doubleQuoted : Nat → Cursor → Reading
  | 0, _ => .error .malformed
  | fuel + 1, c =>
    match c.rest with
    | [] => .error .malformed
    | '\x22' :: _ => .ok ([], c.advance)
    | '\\' :: _ => do
      let (escaped, c) ← escape fuel c.advance
      let (cs, c) ← doubleQuoted fuel c
      return (escaped ++ cs, c)
    | ch :: _ =>
      if isSeparator ch then do
        let (spaces, c) ← quotedSpaces fuel c
        let (cs, c) ← doubleQuoted fuel c
        return (spaces ++ cs, c)
      else (doubleQuoted fuel c.advance).map fun (cs, c) => (ch :: cs, c)

/-! Plain scalars -/

def isFlowIndicator (c : Char) : Bool :=
  c = ',' || c = '?' || c = '[' || c = ']' || c = '\x7b' || c = '\x7d'

/-- Inside brackets a colon also ends a scalar if one of these follows it. -/
def isFlowEnd (c : Char) : Bool :=
  c = ',' || c = '[' || c = ']' || c = '\x7b' || c = '\x7d'

def endsValueMark (inFlow : Bool) : List Char → Bool
  | [] => true
  | c :: _ => isSeparator c || (inFlow && isFlowEnd c)

def plainLength (inFlow : Bool) : List Char → Nat
  | [] => 0
  | c :: rest =>
    if isSeparator c || (c = ':' && endsValueMark inFlow rest) || (inFlow && isFlowIndicator c) then 0
    else plainLength inFlow rest + 1

def plainEmptyLines : Nat → Cursor → Option (List Char) × Cursor
  | 0, c => (some [], c)
  | fuel + 1, c =>
    if c.atDocumentMarker then (none, c)
    else
      let c := c.skipWhile (· = ' ')
      match c.lineBreak? with
      | none => (some [], c)
      | some (b, c) =>
        let (bs, c) := plainEmptyLines fuel c
        (bs.map (b :: ·), c)

/-- What stands between two words of a plain scalar, and whether a line ends there. Nothing comes of
it where the scalar is at its end. -/
structure Gap where
  text : List Char
  crossesLine : Bool
  cursor : Cursor

def plainGap (fuel : Nat) (c : Cursor) : Gap :=
  let (spaces, c) := c.span (· = ' ')
  match c.lineBreak? with
  | none => ⟨spaces, false, c⟩
  | some (b, c) =>
    let (bs, c) := plainEmptyLines fuel c
    ⟨(bs.map (folded b)).getD [], true, c⟩

structure PlainScalar where
  text : List Char
  endsLine : Bool
  cursor : Cursor

def plain (inFlow : Bool) (indent : Int) : Nat → Cursor → PlainScalar
  | 0, c => ⟨[], false, c⟩
  | fuel + 1, c =>
    let length := plainLength inFlow c.rest
    let word := c.rest.take length
    let gap := plainGap fuel (c.skip length)
    let more := !gap.text.isEmpty && !gap.cursor.next (· = '#') &&
      (inFlow || indent ≤ gap.cursor.column) && plainLength inFlow gap.cursor.rest ≠ 0
    if more then
      let next := plain inFlow indent fuel gap.cursor
      ⟨word ++ gap.text ++ next.text, next.endsLine, next.cursor⟩
    else ⟨word, gap.crossesLine, gap.cursor⟩

/-! Blocks -/

inductive Chomping where
  | clip
  | strip
  | keep
  deriving DecidableEq

/-- What the marks after the sign of a block say: what becomes of the last line ends, and by how much
the block is indented. -/
structure BlockHeader where
  chomping : Chomping := .clip
  increment : Option Nat := none

def chomping? (c : Char) : Option Chomping :=
  if c = '+' then some .keep else if c = '-' then some .strip else none

def restOfLine (c : Cursor) : Except Fault Cursor :=
  let c := c.skipWhile (· = ' ')
  let c := if c.next (· = '#') then c.skipWhile fun ch => !isBreak ch else c
  match c.lineBreak? with
  | some (_, c) => .ok c
  | none => if c.atEnd then .ok c else .error .malformed

def blockIncrement (c : Cursor) : Except Fault (Option Nat × Cursor) :=
  match c.peek? with
  | some ch =>
    if ch = '0' then .error .malformed
    else if ch.isDigit then .ok (some (ch.toNat - '0'.toNat), c.advance)
    else .ok (none, c)
  | none => .ok (none, c)

def blockChomping (c : Cursor) : Option Chomping × Cursor :=
  match c.peek?.bind chomping? with
  | some chomping => (some chomping, c.advance)
  | none => (none, c)

def blockHeader (c : Cursor) : Except Fault (BlockHeader × Cursor) := do
  let (before, c) := blockChomping c
  let (increment, c) ← blockIncrement c
  let (after, c) :=
    if before.isNone && increment.isSome then blockChomping c else (none, c)
  if !c.endOr 0 (fun ch => ch = ' ' || isBreak ch) then .error .malformed
  return (⟨(before.orElse fun _ => after).getD .clip, increment⟩, ← restOfLine c)

def skipIndent (indent : Nat) : Nat → Cursor → Cursor
  | 0, c => c
  | fuel + 1, c =>
    if c.column < indent && c.next (· = ' ') then skipIndent indent fuel c.advance else c

def blockEmptyLines (indent : Nat) : Nat → Cursor → List Char × Cursor
  | 0, c => ([], c)
  | fuel + 1, c =>
    let c := skipIndent indent c.rest.length c
    match c.lineBreak? with
    | none => ([], c)
    | some (b, c) =>
      let (bs, c) := blockEmptyLines indent fuel c
      (b :: bs, c)

/-- The line ends before the first line of a block, and the most columns that a line up to it, empty
or not, is indented by. -/
def blockLeadIn : Nat → Nat → Cursor → List Char × Nat × Cursor
  | 0, deepest, c => ([], deepest, c)
  | fuel + 1, deepest, c =>
    if c.next (· = ' ') then
      let c := c.advance
      blockLeadIn fuel (max deepest c.column) c
    else
      match c.lineBreak? with
      | none => ([], deepest, c)
      | some (b, c) =>
        let (bs, deepest, c) := blockLeadIn fuel deepest c
        (b :: bs, deepest, c)

/-- The lines of a block, the last line end, and the line ends after that. -/
structure BlockBody where
  text : List Char
  lastEnd : List Char
  trailing : List Char
  cursor : Cursor

/-- In a folded block a line end is read as a space between two lines that start with a character
other than a space. -/
def blockJoin (fold : Bool) (lineEnd : List Char) (before after : Bool) (empty : List Char) :
    List Char :=
  if fold && lineEnd == ['\n'] && before && after then
    if empty.isEmpty then [' '] else []
  else lineEnd

def blockLines (fold : Bool) (indent : Nat) : Nat → List Char → Cursor → BlockBody
  | 0, empty, c => ⟨[], [], empty, c⟩
  | fuel + 1, empty, c =>
    if c.column ≠ indent || c.atEnd then ⟨[], [], empty, c⟩
    else
      let startsFull := !c.next isSpaceOrTab
      let (line, c) := c.span fun ch => !isBreak ch
      let (lineEnd, c) :=
        match c.lineBreak? with
        | some (b, c) => ([b], c)
        | none => ([], c)
      let (more, c) := blockEmptyLines indent (c.rest.length + 1) c
      if c.column = indent && !c.atEnd then
        let join := blockJoin fold lineEnd startsFull (!c.next isSpaceOrTab) more
        let body := blockLines fold indent fuel more c
        { body with text := empty ++ line ++ join ++ body.text }
      else ⟨empty ++ line, lineEnd, more, c⟩

/-- A block scalar inside a block indented by `parent` columns, from after its sign. -/
def blockScalar (fold : Bool) (parent : Int) (c : Cursor) : Reading := do
  let (header, c) ← blockHeader c
  let least := max (parent + 1) 1
  let (empty, indent, c) :=
    match header.increment with
    | some n =>
      let indent := (least + n - 1).toNat
      let (empty, c) := blockEmptyLines indent (c.rest.length + 1) c
      (empty, indent, c)
    | none =>
      let (empty, deepest, c) := blockLeadIn (c.rest.length + 1) 0 c
      (empty, max least.toNat deepest, c)
  let body := blockLines fold indent (c.rest.length + 1) empty c
  let tail :=
    match header.chomping with
    | .clip => body.lastEnd
    | .strip => []
    | .keep => body.lastEnd ++ body.trailing
  return (body.text ++ tail, body.cursor)

end MarkupAudit.Yaml
