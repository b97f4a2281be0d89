import Std.Data.HashMap
import MarkupAudit.Grammar.Lexeme
import MarkupAudit.Source.Tree

/-! Parsing expressions and the machine that runs them. The first alternative that fits is taken, a
rule is tried at most once at each place, and what is left to do is kept on a stack, so nesting
depth is no limit. The machine builds nodes of a source tree on its way. -/
namespace MarkupAudit.Grammar

/-- A place in a source: the text there, and the text after blanks and comments. -/
structure Cursor where
  rest : List Char
  offset : Nat
  ahead : List Char
  aheadOffset : Nat
  lineBreak : Bool

def Cursor.at (rest : List Char) (offset : Nat) : Cursor :=
  let (ahead, bytes, lineBreak) := skipBlanks 0 false 0 rest
  ⟨rest, offset, ahead, offset + bytes, lineBreak⟩

def Cursor.after : Nat → List Char → Nat → Cursor
  | n + 1, c :: cs, offset => Cursor.after n cs (offset + c.utf8Size)
  | _, cs, offset => Cursor.at cs offset

/-- What a node is labelled with, and whether it begins before the blanks in front of it. -/
structure NodeLabel where
  kind : String
  field : Option String := none
  blanks : Bool := false

/-- A parsing expression over rules named in `R`. -/
inductive Peg (R : Type) where
  | empty
  | lexeme (l : Lexeme)
  | adjacent (l : Lexeme)
  | test (p : Cursor → Bool)
  | rule (r : R)
  | seq (a b : Peg R)
  | alt (a b : Peg R)
  | star (a : Peg R)
  | unless (a : Peg R)
  | node (label : NodeLabel) (a : Peg R)

namespace Peg

def seqOf : List (Peg R) → Peg R
  | [] => .empty
  | [p] => p
  | p :: ps => .seq p (seqOf ps)

def anyOf : List (Peg R) → Peg R
  | [] => .test fun _ => false
  | [p] => p
  | p :: ps => .alt p (anyOf ps)

def opt (p : Peg R) : Peg R := .alt p .empty

def plus (p : Peg R) : Peg R := .seq p (.star p)

/-- Holds where `p` fits, and takes nothing. -/
def ifAhead (p : Peg R) : Peg R := .unless (.unless p)

def mark (s : String) : Peg R :=
  .lexeme (if s.toList.all isWordPart then keyword s.toList else literal s.toList)

instance : Coe String (Peg R) := ⟨mark⟩

def commaList (p : Peg R) : Peg R :=
  .seq p (.star (seqOf [",", p]))

def commaListOpen (p : Peg R) : Peg R :=
  .seq (commaList p) (opt ",")

def commaListHoles (p : Peg R) : Peg R :=
  .seq (opt p) (.star (.seq "," (opt p)))

end Peg

/-- What is to be done after the expression at hand. -/
inductive Frame (R : Type) where
  | goOn (p : Peg R)
  | orElse (p : Peg R) (place : Cursor) (nodes : List SourceNode)
  | again (p : Peg R) (place : Cursor) (nodes : List SourceNode)
  | negate (place : Cursor) (nodes : List SourceNode)
  | close (label : NodeLabel) (id start : Nat) (outer : List SourceNode)
  | remember (r : R) (offset : Nat) (outer : List SourceNode)

inductive Goal (R : Type) where
  | attempt (p : Peg R)
  | success
  | failure

/-- The nodes built are kept last first. -/
structure Machine (R : Type) [BEq R] [Hashable R] where
  goal : Goal R
  place : Cursor
  nodes : List SourceNode
  stack : List (Frame R)
  memory : Std.HashMap (R × Nat) (Option (Cursor × List SourceNode))
  nextId : Nat

namespace Machine

variable {R : Type} [BEq R] [Hashable R]

def takeLexeme (m : Machine R) (taken : Option Nat) (cs : List Char) (offset : Nat) : Machine R :=
  match taken with
  | some n => { m with goal := .success, place := .after n cs offset }
  | none => { m with goal := .failure }

def attempt (m : Machine R) : Peg R → Machine R
  | .empty => { m with goal := .success }
  | .lexeme l => m.takeLexeme (l m.place.ahead) m.place.ahead m.place.aheadOffset
  | .adjacent l => m.takeLexeme (l m.place.rest) m.place.rest m.place.offset
  | .test p => { m with goal := if p m.place then .success else .failure }
  | .rule r =>
    match m.memory[(r, m.place.offset)]? with
    | some (some (place, nodes)) =>
      { m with goal := .success, place := place, nodes := nodes ++ m.nodes }
    | some none => { m with goal := .failure }
    | none => { m with goal := .failure }
  | .seq a b => { m with goal := .attempt a, stack := .goOn b :: m.stack }
  | .alt a b => { m with goal := .attempt a, stack := .orElse b m.place m.nodes :: m.stack }
  | .star a => { m with goal := .attempt a, stack := .again a m.place m.nodes :: m.stack }
  | .unless a => { m with goal := .attempt a, stack := .negate m.place m.nodes :: m.stack }
  | .node label a =>
    let start := if label.blanks then m.place.offset else m.place.aheadOffset
    { m with
      goal := .attempt a
      stack := .close label m.nextId start m.nodes :: m.stack
      nodes := []
      nextId := m.nextId + 1 }

/-- Begins a rule that has not been tried at this place. -/
def enter (body : R → Peg R) (m : Machine R) (r : R) : Machine R :=
  if m.memory.contains (r, m.place.offset) then m.attempt (.rule r)
  else
    { m with
      goal := .attempt (body r)
      stack := .remember r m.place.offset m.nodes :: m.stack
      nodes := [] }

def built (label : NodeLabel) (id start stop : Nat) (children : List SourceNode) : SourceNode where
  id := id
  kind := label.kind
  start := start
  stop := stop
  field := label.field
  children := children.reverse

def succeed (m : Machine R) (frame : Frame R) (stack : List (Frame R)) : Machine R :=
  match frame with
  | .goOn p => { m with goal := .attempt p, stack := stack }
  | .orElse _ _ _ => { m with stack := stack }
  | .again p place _ =>
    if m.place.offset == place.offset then { m with stack := stack }
    else { m with goal := .attempt (.star p), stack := stack }
  | .negate place nodes =>
    { m with goal := .failure, place := place, nodes := nodes, stack := stack }
  | .close label id start outer =>
    { m with nodes := built label id start m.place.offset m.nodes :: outer, stack := stack }
  | .remember r offset outer =>
    { m with
      nodes := m.nodes ++ outer
      stack := stack
      memory := m.memory.insert (r, offset) (some (m.place, m.nodes)) }

def fail (m : Machine R) (frame : Frame R) (stack : List (Frame R)) : Machine R :=
  match frame with
  | .goOn _ => { m with stack := stack }
  | .orElse p place nodes =>
    { m with goal := .attempt p, place := place, nodes := nodes, stack := stack }
  | .again _ place nodes | .negate place nodes =>
    { m with goal := .success, place := place, nodes := nodes, stack := stack }
  | .close _ _ _ outer => { m with nodes := outer, stack := stack }
  | .remember r offset outer =>
    { m with
      nodes := outer
      stack := stack
      memory := m.memory.insert (r, offset) none }

/-- The nodes at the end of a run, or nothing if the run fails or does not end in time. -/
def exec (body : R → Peg R) (fuel : Nat) (m : Machine R) : Option (Cursor × List SourceNode) :=
  match fuel with
  | 0 => none
  | fuel + 1 =>
    match m.goal, m.stack with
    | .attempt (.rule r), _ => exec body fuel (m.enter body r)
    | .attempt p, _ => exec body fuel (m.attempt p)
    | .success, [] => some (m.place, m.nodes)
    | .failure, [] => none
    | .success, frame :: stack => exec body fuel (m.succeed frame stack)
    | .failure, frame :: stack => exec body fuel (m.fail frame stack)

end Machine

/-- Runs an expression from the start of a text. A rule is run at most once at each place, and one
run of it takes no more steps than the text has places, times the size of the rule; the fuel allows
for that. -/
def Peg.parse [BEq R] [Hashable R] (body : R → Peg R) (p : Peg R) (source : String) :
    Option (Cursor × List SourceNode) :=
  let cs := source.toList
  Machine.exec body (4096 * ((cs.length + 1) * (cs.length + 1)))
    { goal := .attempt p, place := .at cs 0, nodes := [], stack := [], memory := {}, nextId := 1 }

end MarkupAudit.Grammar
