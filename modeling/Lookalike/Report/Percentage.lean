import Lookalike.Check.Result

/-!
# Scores without a percentage

Reports show scores as whole percentages.  A number too large to be multiplied by a hundred has
none, and neither have the infinite numbers and what is not a number.  No check finds such a score,
but a result need not come from a check, and a report of one with such a score fails.
-/

namespace Lookalike

/-- Why a score has no percentage. -/
inductive PercentageFault where
  | notANumber
  | infinite
  deriving DecidableEq, Repr

/-- What is said about a score without a percentage. -/
def PercentageFault.message : PercentageFault → String
  | .notANumber => "cannot convert float NaN to integer"
  | .infinite => "cannot convert float infinity to integer"

/-- Why a score has no percentage, if it has none. -/
def percentageFault? (score : Binary64) : Option PercentageFault :=
  match score.scale 100 with
  | .nan => some .notANumber
  | .infinity _ => some .infinite
  | .negativeZero | .finite _ => none

namespace CheckResult

/-- The matches of a result in the order of its reports. -/
def allMatched (result : CheckResult) : List Match :=
  result.reports.flatMap (·.matched)

/-- A result in a form that shows percentages; the first score without one is the failure. -/
def reportBy (render : CheckResult → String) (result : CheckResult) :
    Except PercentageFault String :=
  match result.allMatched.findSome? fun found => percentageFault? found.score with
  | some fault => .error fault
  | none => .ok (render result)

end CheckResult

end Lookalike
