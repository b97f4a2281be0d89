import MarkupAudit.Number.Binary64

/-! The score of a run: the percentage of checks passed, taken in binary64 arithmetic and rounded
half up, and never negative. -/
namespace MarkupAudit

inductive ScoreFailure where
  | quotientTooLarge
  | percentageInfinite
  deriving DecidableEq, Repr

def ScoreFailure.message : ScoreFailure → String
  | .quotientTooLarge => "integer division result too large for a float"
  | .percentageInfinite => "cannot convert float infinity to integer"

def passedShare (total violations : Int) : Rat :=
  Binary64.round (((total - violations : Int) : Rat) / (total : Rat))

/-- A share as a percentage: the product with 100, rounded. -/
def percentage (share : Rat) : Rat :=
  Binary64.round (share * 100)

/-- Half a point more, rounded, and down to an integer. -/
def floorHalfUp (x : Rat) : Int :=
  (Binary64.round (x + 1 / 2)).floor

/-- With no checks there is nothing to fail and the score is 100. -/
def score (total violations : Int) : Except ScoreFailure Int :=
  if total ≤ 0 then .ok 100
  else
    let share := passedShare total violations
    if !Binary64.isFinite share then .error .quotientTooLarge
    else
      let percent := percentage share
      if !Binary64.isFinite percent then .error .percentageInfinite
      else .ok (max 0 (floorHalfUp percent))

end MarkupAudit
