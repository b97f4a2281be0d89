import MarkupAudit.Number.Binary64

/-! Values of binary64 with their decimal texts: the nearest value is read from a decimal, and the
fewest digits that lead back to a value are written for it. -/
namespace MarkupAudit

/-- Magnitudes are exact rationals; zero keeps its sign. -/
inductive Double where
  | finite (negative : Bool) (magnitude : Rat)
  | infinite (negative : Bool)
  | nan
  deriving DecidableEq, Repr

namespace Double

def ofMagnitude (negative : Bool) (m : Rat) : Double :=
  let r := Binary64.round m
  if Binary64.isFinite r then .finite negative r else .infinite negative

def negate : Double → Double
  | finite negative m => finite (!negative) m
  | infinite negative => infinite (!negative)
  | nan => nan

def toRat : Bool → Rat → Rat
  | negative, m => if negative then -m else m

def ofRat (x : Rat) : Double :=
  if x < 0 then ofMagnitude true (-x) else ofMagnitude false x

def addMultiple (total : Double) (factor : Nat) (x : Double) : Double :=
  match total, x with
  | finite n m, finite n' m' =>
    ofRat (toRat n m + Binary64.round (Binary64.round factor * toRat n' m'))
  | nan, _ | _, nan => nan
  | infinite n, _ | _, infinite n => infinite n

def powerOfTen (e : Int) : Rat :=
  if 0 ≤ e then Nat.pow 10 e.toNat else 1 / Nat.pow 10 (-e).toNat

/-- The value nearest to `n * 10^e`. Exponents far outside the range are settled without computing
the power. -/
def ofDecimal (negative : Bool) (n : Nat) (e : Int) : Double :=
  let top := e + (Nat.toDigits 10 n).length
  if n = 0 ∨ top < -400 then .finite negative 0
  else if 400 < top then .infinite negative
  else ofMagnitude negative (n * powerOfTen e)

def floorLog10 (m : Rat) : Int :=
  let e : Int := (Nat.toDigits 10 m.num.natAbs).length - (Nat.toDigits 10 m.den).length
  if powerOfTen e ≤ m then e else e - 1

def nearerStep (m step : Rat) (below : Nat) : Nat :=
  let half := (below + 1 / 2 : Rat) * step
  if m < half ∨ (m = half ∧ below % 2 = 0) then below else below + 1

def neighbour? (m step : Rat) : Option Nat :=
  let below := (m / step).floor.toNat
  let fits (n : Nat) := Binary64.round (n * step) = m
  match decide (fits below), decide (fits (below + 1)) with
  | true, true => some (nearerStep m step below)
  | true, false => some below
  | false, true => some (below + 1)
  | false, false => none

/-- The fewest digits that lead back to a magnitude, with the exponent of the last of them. Digit
counts are tried from `digits` on. -/
def shortestFrom (m : Rat) (top : Int) : Nat → Nat → Nat × Int
  | _, 0 => (0, 0)
  | digits, more + 1 =>
    let last := top - (digits - 1 : Nat)
    match neighbour? m (powerOfTen last) with
    | some n => (n, last)
    | none => shortestFrom m top (digits + 1) more

/-- Seventeen digits are enough for every value. -/
def maxDigits : Nat := 17

def stripZeros : Nat → Nat × Int → Nat × Int
  | 0, p => p
  | fuel + 1, (n, e) => if n ≠ 0 ∧ n % 10 = 0 then stripZeros fuel (n / 10, e + 1) else (n, e)

def shortest (m : Rat) : Nat × Int :=
  if m = 0 then (0, 0)
  else stripZeros (maxDigits + 1) (shortestFrom m (floorLog10 m) 1 maxDigits)

def digitsOf (n : Nat) : List Char :=
  Nat.toDigits 10 n

def zeros (n : Nat) : List Char :=
  List.replicate n '0'

def exponentText (e : Int) : List Char :=
  let ds := digitsOf e.natAbs
  (if e < 0 then '-' else '+') :: (zeros (2 - ds.length) ++ ds)

/-- A magnitude is written with a point from 10^-4 up to 10^16, and with an exponent outside. -/
def magnitudeText (m : Rat) : List Char :=
  let (n, last) := shortest m
  let ds := digitsOf n
  let top := last + (ds.length - 1 : Nat)
  if top < -4 ∨ 16 ≤ top then
    (match ds with
      | d :: [] => [d]
      | d :: rest => d :: '.' :: rest
      | [] => []) ++ 'e' :: exponentText top
  else if 0 ≤ last then ds ++ zeros last.toNat ++ ".0".toList
  else
    let places := (-last).toNat
    let padded := zeros (places + 1 - ds.length) ++ ds
    let whole := padded.length - places
    padded.take whole ++ '.' :: padded.drop whole

def signText (negative : Bool) (text : List Char) : String :=
  String.ofList (if negative then '-' :: text else text)

def text : Double → String
  | finite negative m => signText negative (magnitudeText m)
  | infinite negative => signText negative "inf".toList
  | nan => "nan"

end Double

end MarkupAudit
