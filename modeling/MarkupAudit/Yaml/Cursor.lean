/-! A position in a document: the characters left, and the line and column that they start at. -/
namespace MarkupAudit.Yaml

/-- A line ends at a newline, a carriage return, the next-line control, or one of the two Unicode
separators. -/
def isBreak (c : Char) : Bool :=
  c = '\n' || c = '\r' || c = '\x85' || c = '\u2028' || c = '\u2029'

def isSpaceOrTab (c : Char) : Bool :=
  c = ' ' || c = '\t'

def isSeparator (c : Char) : Bool :=
  isSpaceOrTab c || isBreak c

def isWordChar (c : Char) : Bool :=
  c.isAlphanum || c = '-' || c = '_'

def isAllowed (c : Char) : Bool :=
  let n := c.toNat
  n = 0x09 || n = 0x0A || n = 0x0D || (0x20 ≤ n && n ≤ 0x7E) || n = 0x85 ||
    (0xA0 ≤ n && n ≤ 0xFFFD) || 0x10000 ≤ n

def byteOrderMark : Char := '\uFEFF'

structure Cursor where
  rest : List Char
  offset : Nat := 0
  line : Nat := 0
  column : Nat := 0

namespace Cursor

def peek? (c : Cursor) : Option Char :=
  c.rest.head?

def atEnd (c : Cursor) : Bool :=
  c.rest.isEmpty

def next (c : Cursor) (p : Char → Bool) : Bool :=
  c.peek?.any p

/-- Whether the character after `n` others passes a test, as the end of the document does. -/
def endOr (c : Cursor) (n : Nat) (p : Char → Bool) : Bool :=
  match c.rest.drop n with
  | [] => true
  | ch :: _ => p ch

def advance (c : Cursor) : Cursor :=
  match c.rest with
  | [] => c
  | ch :: rest =>
    if isBreak ch && !(ch = '\r' && rest.head? == some '\n') then ⟨rest, c.offset + 1, c.line + 1, 0⟩
    else ⟨rest, c.offset + 1, c.line, if ch = byteOrderMark then c.column else c.column + 1⟩

def skip (c : Cursor) : Nat → Cursor
  | 0 => c
  | n + 1 => c.advance.skip n

def span (c : Cursor) (p : Char → Bool) : List Char × Cursor :=
  let taken := c.rest.takeWhile p
  (taken, c.skip taken.length)

def skipWhile (c : Cursor) (p : Char → Bool) : Cursor :=
  (c.span p).2

def lineBreak? (c : Cursor) : Option (Char × Cursor) :=
  match c.rest with
  | '\r' :: '\n' :: _ => some ('\n', c.skip 2)
  | ch :: _ =>
    if ch = '\u2028' || ch = '\u2029' then some (ch, c.advance)
    else if isBreak ch then some ('\n', c.advance)
    else none
  | [] => none

def startsMarker (c : Cursor) (marker : List Char) : Bool :=
  marker.isPrefixOf c.rest && c.endOr 3 isSeparator

def atDocumentStart (c : Cursor) : Bool := c.startsMarker ['-', '-', '-']

def atDocumentEnd (c : Cursor) : Bool := c.startsMarker ['.', '.', '.']

def atDocumentMarker (c : Cursor) : Bool :=
  c.atDocumentStart || c.atDocumentEnd

end Cursor

end MarkupAudit.Yaml
