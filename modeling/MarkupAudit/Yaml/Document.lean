import MarkupAudit.Text.Blank
import MarkupAudit.Yaml.Base64
import MarkupAudit.Yaml.Node

/-! From the tree of a document to its value. Scalars are read as their kinds say; merged mappings
come before a mapping's own entries. Of several faults the one nearest to the root counts. -/
namespace MarkupAudit.Yaml

/-! Scalars -/

def withoutMarks (s : String) : List Char :=
  s.toList.filter (· ≠ '_')

def isNegative (cs : List Char) : Bool :=
  cs.head? == some '-'

def digitsValue? (base : Nat) (cs : List Char) : Option Nat :=
  if cs.isEmpty then none
  else
    cs.foldlM (fun n c => (Text.Utf8.hexDigit? c).bind fun d =>
      if d < base then some (base * n + d) else none) 0

def wholeNumber (base : Nat) (cs : List Char) : Except Fault Int :=
  let trimmed := Text.trimBlanks cs
  match digitsValue? base (Kind.dropSign trimmed) with
  | some n => .ok (if isNegative trimmed then -n else n)
  | none => .error (.scalar (.integer base (String.ofList cs)))

/-- Parts of sixty, the highest first. -/
def sixtieths (parts : List Int) : Int :=
  parts.foldl (fun n d => 60 * n + d) 0

def splitColons (cs : List Char) : List (List Char) :=
  ((String.ofList cs).splitOn ":").map String.toList

def intValue (s : String) : Except Fault Int := do
  let cs := withoutMarks s
  if cs.isEmpty then throw (.scalar .emptyNumber)
  let digits := Kind.dropSign cs
  let n ←
    match digits with
    | ['0'] => pure 0
    | '0' :: 'b' :: rest => wholeNumber 2 rest
    | '0' :: 'x' :: rest => wholeNumber 16 rest
    | '0' :: _ => wholeNumber 8 digits
    | [] => throw (.scalar .emptyNumber)
    | _ =>
      if digits.contains ':' then sixtieths <$> (splitColons digits).mapM (wholeNumber 10)
      else wholeNumber 10 digits
  return if isNegative cs then -n else n

def decimal? (cs : List Char) : Option (Nat × Int) :=
  let whole := cs.takeWhile Char.isDigit
  let rest := cs.drop whole.length
  let fraction := if rest.head? = some '.' then (rest.drop 1).takeWhile Char.isDigit else []
  let rest := if rest.head? = some '.' then rest.drop (fraction.length + 1) else rest
  let digits := whole ++ fraction
  if digits.isEmpty then none
  else
    let exponent :=
      match rest with
      | [] => some 0
      | e :: power =>
        if e ≠ 'e' then none
        else (digitsValue? 10 (Kind.dropSign power)).map fun (n : Nat) =>
          if isNegative power then -(n : Int) else n
    exponent.map fun e => (Timestamp.number digits, e - fraction.length)

def floatText (cs : List Char) : Except Fault Double :=
  let trimmed := Text.trimBlanks cs
  let digits := Kind.dropSign trimmed
  let negative := isNegative trimmed
  if ["inf", "infinity"].contains (String.ofList digits) then .ok (.infinite negative)
  else if String.ofList digits = "nan" then .ok .nan
  else
    match decimal? digits with
    | some (n, e) => .ok (.ofDecimal negative n e)
    | none => .error (.scalar (.float (String.ofList cs)))

/-- Parts of sixty, the lowest first, added to a total. -/
def floatSixtieths (factor : Nat) (total : Double) : List Double → Double
  | [] => total
  | part :: rest => floatSixtieths (60 * factor) (total.addMultiple factor part) rest

def floatValue (s : String) : Except Fault Double := do
  let cs := (withoutMarks s).map Char.toLower
  if cs.isEmpty then throw (.scalar .emptyNumber)
  let digits := Kind.dropSign cs
  let x ←
    if digits = ".inf".toList then pure (.infinite false)
    else if digits = ".nan".toList then pure .nan
    else if digits.contains ':' then
      let parts ← (splitColons digits).mapM floatText
      pure (floatSixtieths 1 (.finite false 0) parts.reverse)
    else floatText digits
  return if isNegative cs then x.negate else x

def boolValues : List (String × Bool) :=
  [("yes", true), ("no", false), ("true", true), ("false", false), ("on", true), ("off", false)]

def boolValue (s : String) : Except Fault Bool :=
  match boolValues.lookup s.toLower with
  | some b => .ok b
  | none => .error (.scalar (.boolean s.toLower))

def timestampValue (s : String) : Except Fault Value :=
  match Timestamp.read? s.toList with
  | none => .error (.scalar .timestamp)
  | some t =>
    match t.fault?, t with
    | some fault, _ => .error (.scalar (.moment fault))
    | none, .date d => .ok (.date d)
    | none, .moment m => .ok (.moment m)

def binaryValue (s : String) : Except Fault Value :=
  if s.toList.all fun c => c.toNat < 0x80 then
    match Base64.decode? s.toList with
    | some bs => .ok (.bytes bs)
    | none => .error .malformed
  else .error .malformed

/-- A scalar as what its kind says. Kinds of collections, and the keys that only a mapping gives a
meaning, have no scalars. -/
def scalarValue (kind : Kind) (s : String) : Except Fault Value :=
  match kind with
  | .null => .ok .null
  | .bool => .bool <$> boolValue s
  | .int => .int <$> intValue s
  | .float => .float <$> floatValue s
  | .timestamp => timestampValue s
  | .binary => binaryValue s
  | .text => .ok (.text s)
  | _ => .error .malformed

/-! Mappings -/

def Node.kind? : Node → Option Kind
  | .scalar kind _ | .sequence kind _ | .mapping kind _ => some kind
  | .enclosing _ => none

/-- The entries of a mapping with those of the mappings that it merges in front, and among them those
of an earlier mapping after those of a later one. -/
def mergedEntries : Nat → List (Node × Node) → Except Fault (List (Node × Node))
  | 0, _ => .error .malformed
  | fuel + 1, entries => do
    let isMerge (e : Node × Node) : Bool := e.1.kind? == some .merge
    let merged ← (entries.filter isMerge).mapM fun e =>
      match e.2 with
      | .mapping _ inner => mergedEntries fuel inner
      | .sequence _ items => do
        let parts ← items.mapM fun item =>
          match item with
          | .mapping _ inner => mergedEntries fuel inner
          | .enclosing _ => .ok []
          | _ => .error .malformed
        return parts.reverse.flatten
      | .enclosing _ => .ok []
      | .scalar _ _ => .error .malformed
    return merged.flatten ++ entries.filter fun e => !isMerge e

def plainKey : Node → Node
  | .scalar .default s => .scalar .text s
  | n => n

/-- The text of a mapping that stands for a scalar: its default value. -/
def defaultText : Nat → Node → Except Fault String
  | 0, _ => .error .malformed
  | fuel + 1, n =>
    match n with
    | .scalar _ s => .ok s
    | .mapping _ entries =>
      match entries.find? fun e => e.1.kind? == some .default with
      | some e => defaultText fuel e.2
      | none => .error .malformed
    | _ => .error .malformed

def isScalarKind : Kind → Bool
  | .null | .bool | .int | .float | .timestamp | .binary | .text => true
  | _ => false

/-! Values -/

def singleEntries (items : List Node) : Except Fault (List (Node × Node)) :=
  items.mapM fun item =>
    match item with
    | .mapping _ [e] => .ok e
    | _ => .error .malformed

def ownValue (fuel : Nat) (n : Node) : Except Fault (Option Value) :=
  match n with
  | .enclosing _ => .ok none
  | .scalar kind s =>
    if isScalarKind kind then some <$> scalarValue kind s
    else if kind = .unknown || kind = .merge || kind = .default then .error .malformed
    else .ok none
  | .sequence kind _ | .mapping kind _ =>
    if isScalarKind kind then do
      let s ← defaultText fuel n
      some <$> scalarValue kind s
    else if kind = .unknown || kind = .merge || kind = .default then .error .malformed
    else .ok none

def checkParts (fuel : Nat) (parts : List (Node × Bool)) : Except Fault (List Node) :=
  parts.foldlM (fun found (n, isKey) => do
    match ← ownValue fuel n with
    | some _ => return found
    | none => if isKey then throw .malformed else return found ++ [n]) []

/-- Looks at a node that has parts to have; the nodes whose parts come next. -/
def checkNode (fuel : Nat) (n : Node) : Except Fault (List Node) := do
  let keyed (entries : List (Node × Node)) : List (Node × Bool) :=
    entries.flatMap fun e => [(plainKey e.1, true), (e.2, false)]
  match n with
  | .sequence .sequence items => checkParts fuel (items.map fun i => (i, false))
  | .sequence .orderedMapping items | .sequence .pairs items =>
    checkParts fuel ((← singleEntries items).flatMap fun e => [(e.1, false), (e.2, false)])
  | .mapping .mapping entries | .mapping .set entries =>
    checkParts fuel (keyed (← mergedEntries fuel entries))
  | .enclosing _ => return []
  | _ => throw .malformed

def checkLevels : Nat → List Node → Except Fault Unit
  | _, [] => .ok ()
  | 0, _ => .error .malformed
  | fuel + 1, level => do
    let next ← level.mapM (checkNode fuel)
    checkLevels fuel next.flatten

def toValue : Nat → Node → Except Fault Value
  | 0, _ => .error .malformed
  | fuel + 1, n => do
    match ← ownValue fuel n with
    | some v => return v
    | none =>
      let both (e : Node × Node) : Except Fault (Value × Value) := do
        return (← toValue fuel (plainKey e.1), ← toValue fuel e.2)
      match n with
      | .sequence .sequence items => .list <$> items.mapM (toValue fuel)
      | .sequence .orderedMapping items | .sequence .pairs items =>
        return .list ((← (← singleEntries items).mapM both).map fun (a, b) => .pair a b)
      | .mapping .mapping entries =>
        return .map (Value.ofEntries (← (← mergedEntries fuel entries).mapM both))
      | .mapping .set entries =>
        return .set ((Value.ofEntries (← (← mergedEntries fuel entries).mapM both)).map Prod.fst)
      | .enclosing levels => return .enclosing levels
      | _ => throw .malformed

/-- The value of a text that holds one document; a text without one is null. -/
def readValue (text : String) : Except Fault Value := do
  match ← Node.read? text with
  | none => return .null
  | some n =>
    let fuel := text.length + 2
    if (← ownValue fuel n).isNone then checkLevels fuel [n]
    toValue fuel n

/-- Reads a text to its end before it looks at the document. -/
def loader : Loader where
  load s :=
    match s.fault? with
    | some fault => .error (.undecodable fault)
    | none => (readValue s.text).mapError .document
  fault?_of_load := by
    intro s v h
    split at h
    · cases h
    · assumption
  fault?_of_undecodable := by
    intro s fault h
    split at h
    · cases h
      assumption
    · cases hvalue : readValue s.text <;> rw [hvalue] at h <;> cases h

end MarkupAudit.Yaml
