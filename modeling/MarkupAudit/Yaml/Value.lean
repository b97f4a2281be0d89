import MarkupAudit.Number.Double
import MarkupAudit.Text.Quoted
import MarkupAudit.Text.Stream
import MarkupAudit.Yaml.Moment

/-! The value of a document, and the two ways to write a value as text: a scalar by itself, and
anything inside a collection, where texts have quotes. A document without a value breaks the rules of
the notation, or it keeps them and holds a scalar that does not read as what it is marked to be. -/
namespace MarkupAudit.Yaml

inductive Value where
  | null
  | bool (b : Bool)
  | int (i : Int)
  | float (x : Double)
  | text (s : String)
  | bytes (bs : List UInt8)
  | date (d : Date)
  | moment (m : Moment)
  | list (items : List Value)
  | map (entries : List (Value × Value))
  | set (items : List Value)
  | pair (first second : Value)
  /-- The collection so many levels up, the one around this value being level 0. -/
  | enclosing (levels : Nat)
  deriving Inhabited, Repr

namespace Value

/-! Keys -/

/-- The number that a value counts as when it is compared with others. -/
def number? : Value → Option Rat
  | bool b => some (if b then 1 else 0)
  | int i => some i
  | float (.finite negative m) => some (if negative then -m else m)
  | _ => none

def sameKey (a b : Value) : Bool :=
  match number? a, number? b with
  | some x, some y => x = y
  | none, none =>
    match a, b with
    | null, null => true
    | float x, float y => x = y
    | text s, text t => s = t
    | bytes x, bytes y => x = y
    | date x, date y => x = y
    | moment x, moment y => x.same y
    | _, _ => false
  | _, _ => false

/-- Sets a key: the last value of a key counts, at the place of the first. -/
def setEntry (key value : Value) : List (Value × Value) → List (Value × Value)
  | [] => [(key, value)]
  | (k, v) :: rest =>
    if sameKey k key then (k, value) :: rest else (k, v) :: setEntry key value rest

def ofEntries (entries : List (Value × Value)) : List (Value × Value) :=
  entries.foldl (fun done (k, v) => setEntry k v done) []

/-! Parts -/

mutual

/-- A part of a collection taken out of it: what led back to the collection holds it now. -/
def outOf (collection : Value) (depth : Nat) : Value → Value
  | list items => list (listOutOf collection (depth + 1) items)
  | map entries => map (entriesOutOf collection (depth + 1) entries)
  | set items => set (listOutOf collection (depth + 1) items)
  | pair a b => pair (outOf collection (depth + 1) a) (outOf collection (depth + 1) b)
  | enclosing levels =>
    if levels = depth then collection
    else if depth < levels then enclosing (levels - 1)
    else enclosing levels
  | v => v

def listOutOf (collection : Value) (depth : Nat) : List Value → List Value
  | [] => []
  | v :: rest => outOf collection depth v :: listOutOf collection depth rest

def entriesOutOf (collection : Value) (depth : Nat) : List (Value × Value) → List (Value × Value)
  | [] => []
  | (k, v) :: rest =>
    (outOf collection depth k, outOf collection depth v) :: entriesOutOf collection depth rest

end

def items? (v : Value) : Option (List Value) :=
  match v with
  | list items => some (listOutOf v 0 items)
  | _ => none

def entry? (v : Value) (key : String) : Option Value :=
  match v with
  | map entries => (entries.find? fun p => sameKey p.1 (text key)).map fun p => outOf v 0 p.2
  | _ => none

/-! Texts -/

def byteText (quote : Char) (b : UInt8) : String :=
  let c := Char.ofNat b.toNat
  if c = quote || c = '\\' then String.ofList ['\\', c]
  else if c = '\t' then "\\t"
  else if c = '\n' then "\\n"
  else if c = '\r' then "\\r"
  else if b < 0x20 || 0x7F ≤ b then "\\x" ++ Text.Utf8.hex 2 b.toNat
  else c.toString

def bytesText (bs : List UInt8) : String :=
  let q := Text.quoteFor (bs.map fun b => Char.ofNat b.toNat)
  "b" ++ q.toString ++ String.join (bs.map (byteText q)) ++ q.toString

def braced (items : List String) : String :=
  "\x7b" ++ ", ".intercalate items ++ "\x7d"

/-- What a collection shows of itself inside itself. -/
inductive Brackets where
  | square
  | curly
  | round

def Brackets.abridged : Brackets → String
  | square => "[...]"
  | curly => "\x7b...\x7d"
  | round => "(...)"

mutual

def shown (around : List Brackets) : Value → String
  | null => "None"
  | bool b => if b then "True" else "False"
  | int i => toString i
  | float x => x.text
  | text s => Text.quoted s
  | bytes bs => bytesText bs
  | date d => d.shown
  | moment m => m.shown
  | list items => Text.bracketed (shownItems (.square :: around) items)
  | map entries => braced (shownEntries (.curly :: around) entries)
  | set items => if items.isEmpty then "set()" else braced (shownItems (.curly :: around) items)
  | pair a b =>
    "(" ++ shown (.round :: around) a ++ ", " ++ shown (.round :: around) b ++ ")"
  | enclosing levels => ((around[levels]?).map Brackets.abridged).getD Brackets.curly.abridged

def shownItems (around : List Brackets) : List Value → List String
  | [] => []
  | v :: rest => shown around v :: shownItems around rest

def shownEntries (around : List Brackets) : List (Value × Value) → List String
  | [] => []
  | (k, v) :: rest => (shown around k ++ ": " ++ shown around v) :: shownEntries around rest

end

def asText : Value → String
  | text s => s
  | date d => d.text
  | moment m => m.text
  | v => v.shown []

end Value

inductive ScalarFault where
  | codePoint
  | emptyNumber
  | integer (base : Nat) (text : String)
  | float (text : String)
  | boolean (text : String)
  | timestamp
  | moment (fault : MomentFault)
  deriving DecidableEq, Repr

inductive Fault where
  | malformed
  | scalar (fault : ScalarFault)
  deriving DecidableEq, Repr

def ScalarFault.message : ScalarFault → String
  | codePoint => "chr() arg not in range(0x110000)"
  | emptyNumber => "string index out of range"
  | integer base text =>
    "invalid literal for int() with base " ++ toString base ++ ": " ++ Text.quoted text
  | float text =>
    if text = "" then "could not convert string to float: ''"
    else "could not convert string to float: " ++ Text.quoted text
  | boolean text => text
  | timestamp => "'NoneType' object has no attribute 'groupdict'"
  | moment fault => fault.message

inductive LoadFault where
  | document (fault : Fault)
  | undecodable (fault : Text.Utf8.Fault)
  deriving DecidableEq, Repr

/-- A way to load the value of a document. It reads the text to the end before it gives a value, and
tells of no fault in the text but the one that it meets there. -/
structure Loader where
  load : Text.Stream → Except LoadFault Value
  fault?_of_load : ∀ s v, load s = .ok v → s.fault? = none
  fault?_of_undecodable : ∀ s fault, load s = .error (.undecodable fault) → s.fault? = some fault

end MarkupAudit.Yaml
