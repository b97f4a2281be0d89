import MarkupAudit.Yaml.Kind
import MarkupAudit.Yaml.Lexer

/-! The tree of a document, read from its tokens. An alias is replaced by what its anchor names; one
inside the very collection that it names leads back to it. -/
namespace MarkupAudit.Yaml

inductive Node where
  | scalar (kind : Kind) (text : String)
  | sequence (kind : Kind) (items : List Node)
  | mapping (kind : Kind) (entries : List (Node × Node))
  /-- The collection so many levels up, the one around this node being level 0. -/
  | enclosing (levels : Nat)
  deriving Inhabited

/-- The null that a missing node stands for. -/
def Node.empty : Node :=
  .scalar .null ""

structure ReaderState where
  tokens : List Token
  /-- What comes after the last token. -/
  fault : Fault
  handles : List (String × String) := []
  anchors : List (String × Node) := []
  /-- The anchors of the collections around the current place, the innermost first. -/
  around : List (Option String) := []

abbrev Reader := StateT ReaderState (Except Fault)

namespace Reader

def malformed : Reader α :=
  throw .malformed

def peek : Reader Token := do
  match (← get).tokens with
  | [] => throw (← get).fault
  | t :: _ => return t

def skip : Reader Unit :=
  modify fun s => { s with tokens := s.tokens.drop 1 }

def accept (t : Token) : Reader Bool := do
  if (← peek) = t then
    skip
    return true
  else return false

def expect (t : Token) : Reader Unit := do
  if !(← accept t) then malformed

def isNext (ts : List Token) : Reader Bool := do
  return ts.contains (← peek)

/-! Tags and anchors -/

structure Properties where
  anchor : Option String := none
  tag : Option String := none

def defaultHandles : List (String × String) :=
  [("!", "!"), ("!!", Kind.coreTagStart)]

def resolveTag (handle : Option String) (suffix : String) : Reader String := do
  match handle with
  | none => return suffix
  | some h =>
    match (← get).handles.lookup h with
    | some expansion => return expansion ++ suffix
    | none => malformed

def anchor? : Reader (Option String) := do
  match ← peek with
  | .anchor name => skip; return some name
  | _ => return none

def tag? : Reader (Option (Option String × String)) := do
  match ← peek with
  | .tag handle suffix => skip; return some (handle, suffix)
  | _ => return none

/-- An anchor and a tag, in either order. -/
def properties : Reader Properties := do
  let anchor ← anchor?
  let tag ← tag?
  let anchor ← if anchor.isNone && tag.isSome then anchor? else pure anchor
  match tag with
  | none => return ⟨anchor, none⟩
  | some (handle, suffix) => return ⟨anchor, some (← resolveTag handle suffix)⟩

def checkFresh (name : Option String) : Reader Unit := do
  match name with
  | none => return
  | some name =>
    let s ← get
    if (s.anchors.lookup name).isSome || s.around.contains (some name) then malformed

def record (name : Option String) (n : Node) : Reader Unit :=
  match name with
  | none => return
  | some name => modify fun s => { s with anchors := (name, n) :: s.anchors }

def anchored (name : String) : Reader Node := do
  let s ← get
  match s.around.findIdx? (· == some name), s.anchors.lookup name with
  | some levels, _ => return .enclosing levels
  | none, some n => return n
  | none, none => malformed

/-- A tag that says no more than that there is one leaves the kind open. -/
def Properties.namesKind (p : Properties) : Option String :=
  p.tag.filter (· ≠ "!")

def scalarKind (p : Properties) (text : String) (plain : Bool) : Kind :=
  match p.namesKind with
  | some tag => .ofTag tag
  | none => if plain || p.tag.isSome then .ofPlain text else .text

def collectionKind (p : Properties) (usual : Kind) : Kind :=
  match p.namesKind with
  | some tag => .ofTag tag
  | none => usual

def scalar (p : Properties) (text : String) (plain : Bool) : Reader Node := do
  checkFresh p.anchor
  let n := Node.scalar (scalarKind p text plain) text
  record p.anchor n
  return n

/-- Reads a collection; aliases of its anchor inside lead back to it. -/
def inside (p : Properties) (read : Reader Node) : Reader Node := do
  checkFresh p.anchor
  modify fun s => { s with around := p.anchor :: s.around }
  let n ← read
  modify fun s => { s with around := s.around.drop 1 }
  record p.anchor n
  return n

/-! Nodes -/

/-- Where a node stands: among brackets, in a block, or in a block as part of a mapping, where the
entries of a sequence need not be further in. -/
inductive Place where
  | flow
  | block
  | blockPart
  deriving DecidableEq

/-- A part that may be missing: if one of the given tokens comes next, it is null. -/
def partUnless (ends : List Token) (read : Reader Node) : Reader Node := do
  if ← isNext ends then return .empty else read

def valueUnless (ends : List Token) (read : Reader Node) : Reader Node := do
  if ← accept .value then partUnless ends read else return .empty

mutual

def node (place : Place) : Nat → Reader Node
  | 0 => malformed
  | fuel + 1 => do
    if let .reference name ← peek then
      skip
      return ← anchored name
    let p ← properties
    let next ← peek
    let listKind := collectionKind p .sequence
    let mapKind := collectionKind p .mapping
    match next, place with
    | .blockEntry, .blockPart => inside p (.sequence listKind <$> entries fuel)
    | .scalar text plain, _ => skip; scalar p text plain
    | .flowSequenceStart, _ => skip; inside p (.sequence listKind <$> flowItems true fuel)
    | .flowMappingStart, _ => skip; inside p (.mapping mapKind <$> flowEntries true fuel)
    | .blockSequenceStart, .block | .blockSequenceStart, .blockPart =>
      skip
      inside p (.sequence listKind <$> blockItems fuel)
    | .blockMappingStart, .block | .blockMappingStart, .blockPart =>
      skip
      inside p (.mapping mapKind <$> blockEntries fuel)
    | _, _ =>
      if p.anchor.isSome || p.tag.isSome then scalar p "" (p.tag.isNone) else malformed

def blockItems : Nat → Reader (List Node)
  | 0 => malformed
  | fuel + 1 => do
    if ← accept .blockEntry then
      let item ← partUnless [.blockEntry, .blockEnd] (node .block fuel)
      return item :: (← blockItems fuel)
    else
      expect .blockEnd
      return []

def entries : Nat → Reader (List Node)
  | 0 => malformed
  | fuel + 1 => do
    if ← accept .blockEntry then
      let item ← partUnless [.blockEntry, .key, .value, .blockEnd] (node .block fuel)
      return item :: (← entries fuel)
    else return []

def blockEntries : Nat → Reader (List (Node × Node))
  | 0 => malformed
  | fuel + 1 => do
    if ← accept .key then
      let ends := [.key, .value, .blockEnd]
      let key ← partUnless ends (node .blockPart fuel)
      let value ← valueUnless ends (node .blockPart fuel)
      return (key, value) :: (← blockEntries fuel)
    else
      expect .blockEnd
      return []

/-- The items of a sequence in brackets; a key among them makes a mapping of one entry. -/
def flowItems (first : Bool) : Nat → Reader (List Node)
  | 0 => malformed
  | fuel + 1 => do
    if ← accept .flowSequenceEnd then return []
    if !first then expect .flowEntry
    if ← accept .key then
      let ends := [.flowEntry, .flowSequenceEnd]
      let item ← inside {} do
        let key ← partUnless (.value :: ends) (node .flow fuel)
        let value ← valueUnless ends (node .flow fuel)
        return .mapping .mapping [(key, value)]
      return item :: (← flowItems false fuel)
    else if ← accept .flowSequenceEnd then return []
    else
      let item ← node .flow fuel
      return item :: (← flowItems false fuel)

def flowEntries (first : Bool) : Nat → Reader (List (Node × Node))
  | 0 => malformed
  | fuel + 1 => do
    if ← accept .flowMappingEnd then return []
    if !first then expect .flowEntry
    if ← accept .key then
      let ends := [.flowEntry, .flowMappingEnd]
      let key ← partUnless (.value :: ends) (node .flow fuel)
      let value ← valueUnless ends (node .flow fuel)
      return (key, value) :: (← flowEntries false fuel)
    else if ← accept .flowMappingEnd then return []
    else
      let key ← node .flow fuel
      return (key, .empty) :: (← flowEntries false fuel)

end

/-! Documents -/

structure Directives where
  version : Bool := false
  handles : List (String × String) := []

/-- The directives in front of a document: one version at most, and every handle once. -/
def directives (seen : Directives) : Nat → Reader Directives
  | 0 => malformed
  | fuel + 1 => do
    match ← peek with
    | .directive d =>
      skip
      match d with
      | .version major =>
        if seen.version || major ≠ 1 then malformed
        directives { seen with version := true } fuel
      | .tagHandle handle expansion =>
        if (seen.handles.lookup handle).isSome then malformed
        directives { seen with handles := (handle, expansion) :: seen.handles } fuel
      | .reserved => directives seen fuel
    | _ => return seen

def isDirective : Token → Bool
  | .directive _ => true
  | _ => false

def startsExplicitly : Reader Bool := do
  let t ← peek
  return isDirective t || t = .documentStart

def explicitDocument (fuel : Nat) : Reader Node := do
  let found ← directives {} fuel
  modify fun s => { s with handles := found.handles ++ defaultHandles }
  expect .documentStart
  let t ← peek
  if isDirective t || [.documentStart, .documentEnd, .streamEnd].contains t then return .empty
  else node .block fuel

def skipDocumentEnds : Nat → Reader Unit
  | 0 => return
  | fuel + 1 => do
    if ← accept .documentEnd then skipDocumentEnds fuel

def document (fuel : Nat) : Reader (Option Node) := do
  if ← isNext [.streamEnd] then return none
  let n ← if ← startsExplicitly then explicitDocument fuel else do
    modify fun s => { s with handles := defaultHandles }
    node .block fuel
  skipDocumentEnds fuel
  expect .streamEnd
  return some n

end Reader

def Node.read? (text : String) : Except Fault (Option Node) :=
  let ts := tokenize text
  let fuel := 4 * ts.tokens.length + 8
  (Reader.document fuel).run' { tokens := ts.tokens, fault := ts.fault }

end MarkupAudit.Yaml
