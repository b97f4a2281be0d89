import MarkupAudit.Yaml.Cursor
import MarkupAudit.Yaml.Moment

/-! Reading dates and times. Whether they exist is not asked here. -/
namespace MarkupAudit.Yaml

inductive Timestamp where
  | date (d : Date)
  | moment (m : Moment)
  deriving DecidableEq, Repr

namespace Timestamp

def number (digits : List Char) : Nat :=
  digits.foldl (fun n c => 10 * n + (c.toNat - '0'.toNat)) 0

def digits? (least most : Nat) (cs : List Char) : Option (List Char × List Char) :=
  let ds := (cs.take most).takeWhile Char.isDigit
  if least ≤ ds.length then some (ds, cs.drop ds.length) else none

def number? (least most : Nat) (cs : List Char) : Option (Nat × List Char) :=
  (digits? least most cs).map fun (ds, rest) => (number ds, rest)

def char? (c : Char) : List Char → Option (List Char)
  | d :: rest => if c = d then some rest else none
  | [] => none

def date? (cs : List Char) : Option (Date × List Char) := do
  let (year, cs) ← number? 4 4 cs
  let (month, cs) ← number? 1 2 (← char? '-' cs)
  let (day, cs) ← number? 1 2 (← char? '-' cs)
  return (⟨year, month, day⟩, cs)

def divider? (cs : List Char) : Option (List Char) :=
  match cs with
  | [] => none
  | c :: rest =>
    if c = 'T' || c = 't' then some rest
    else if isSpaceOrTab c then some (rest.dropWhile isSpaceOrTab)
    else none

/-- Millionths of a second; what is smaller is cut off. -/
def fraction (cs : List Char) : Nat × List Char :=
  match cs with
  | '.' :: rest =>
    let ds := rest.takeWhile Char.isDigit
    (number ((ds ++ List.replicate 6 '0').take 6), rest.drop ds.length)
  | _ => (0, cs)

def zoneMinutes? (cs : List Char) : Option (Nat × List Char) :=
  match cs with
  | ':' :: rest => number? 2 2 rest
  | _ => some (0, cs)

def zone? (cs : List Char) : Option (Option Int) :=
  match cs.dropWhile isSpaceOrTab with
  | [] => if cs.isEmpty then some none else none
  | ['Z'] => some (some 0)
  | sign :: rest => do
    if sign ≠ '+' ∧ sign ≠ '-' then none
    let (hours, rest) ← number? 1 2 rest
    let (minutes, rest) ← zoneMinutes? rest
    if !rest.isEmpty then none
    let offset : Int := hours * 60 + minutes
    return some (if sign = '-' then -offset else offset)

def read? (cs : List Char) : Option Timestamp := do
  let (onDay, cs) ← date? cs
  if cs.isEmpty then return .date onDay
  let (hour, cs) ← number? 1 2 (← divider? cs)
  let (minute, cs) ← number? 2 2 (← char? ':' cs)
  let (second, cs) ← number? 2 2 (← char? ':' cs)
  let (microsecond, cs) := fraction cs
  return .moment ⟨onDay, hour, minute, second, microsecond, ← zone? cs⟩

def dateLength : Nat := 10

/-- Whether a plain scalar is taken for a timestamp: a date alone needs all its zeros. -/
def isTimestamp (cs : List Char) : Bool :=
  match read? cs with
  | some (.date _) => cs.length = dateLength
  | some (.moment _) => true
  | none => false

def fault? : Timestamp → Option MomentFault
  | date d => d.fault?
  | moment m => m.fault?

end Timestamp

end MarkupAudit.Yaml
