import Lookalike.Check.Result
import Lookalike.Report.Place

/-!
# Compact reports

One line for each match, in a form that editors can read: where the first name was
bound, both names, the percentage and the common subsequence.
-/

namespace Lookalike

namespace Compact

/-- Where a match is: the place of its first name, or else of its scope. -/
def matchLocation (scope : Provenance) (found : Match) : String :=
  let location := found.first.location
  if location.isEmpty then scopeLocation scope else location

/-- The line of a match behind its location. -/
def matchLine (location : String) (found : Match) : String :=
  (if location.isEmpty then "" else location ++ ": ") ++ found.first.display ++ " ~ " ++
    found.second.display ++ " (" ++ toString found.percentage ++ "%) common=\"" ++
    found.evidence ++ "\""

/-- The lines of a result. -/
def lines (result : CheckResult) : List String :=
  result.reports.flatMap fun report =>
    report.matched.map fun found => matchLine (matchLocation report.scope found) found

/-- A result as a compact report. -/
def render (result : CheckResult) : String :=
  "\n".intercalate (lines result)

end Compact

end Lookalike
