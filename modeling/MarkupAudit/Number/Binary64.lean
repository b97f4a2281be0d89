/-! Correct rounding to binary64: 53 significant bits, units in the last place no smaller than
2^-1074, ties to even. Values are exact rationals, so every operation is its exact result rounded
once. -/
namespace MarkupAudit.Binary64

/-- The integer nearest to `num / den`; a half goes to the even neighbour. -/
def nearestEven (num den : Nat) : Nat :=
  let q := num / den
  let r := num % den
  if 2 * r < den then q
  else if den < 2 * r then q + 1
  else if q % 2 = 0 then q else q + 1

def floorLog2 (num den : Nat) : Int :=
  let e : Int := num.log2 - den.log2
  let reached :=
    if 0 ≤ e then den * Nat.pow 2 e.toNat ≤ num else den ≤ num * Nat.pow 2 (-e).toNat
  if reached then e else e - 1

def lastPlace (num den : Nat) : Int :=
  max (floorLog2 num den - 52) (-1074)

def roundMagnitude (num den : Nat) : Rat :=
  let e := lastPlace num den
  if 0 ≤ e then
    (nearestEven num (den * Nat.pow 2 e.toNat) * Nat.pow 2 e.toNat : Nat)
  else
    (nearestEven (num * Nat.pow 2 (-e).toNat) den : Rat) / Nat.pow 2 (-e).toNat

/-- The nearest value with 53 significant bits, the range left open above. -/
def round (x : Rat) : Rat :=
  if x < 0 then -roundMagnitude x.num.natAbs x.den else roundMagnitude x.num.natAbs x.den

def bound : Rat := Nat.pow 2 1024

def isFinite (x : Rat) : Bool :=
  -bound < x && x < bound

end MarkupAudit.Binary64
