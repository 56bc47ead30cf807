import Lookalike.Check.Result
import Lookalike.Report.Place

/-!
# Reports for people

A banner with the totals, then for each scope its matches: the percentage, both names
with the places where they were bound, and their common subsequence.
-/

namespace Lookalike

/-- The greatest width of a report. -/
def widestReport : Nat := 78

/-- A horizontal line. -/
def rule (width : Nat) : String := String.ofList (List.replicate width '─')

/-- The ending of a noun for a number of things. -/
def pluralEnding (count : Nat) : String := if count = 1 then "" else "s"

/-- A number with a fixed number of decimal places; an integer is shown as the nearest
floating-point number. -/
def Number.fixed (places : Nat) (number : Number) : String :=
  (number.toFloat?.getD (.infinity false)).fixed places

namespace Console

/-- The line of one name of a match. -/
def nameLine (name : Name) : String :=
  "      " ++ padRight 32 name.title ++ " " ++ name.location

/-- The lines of a match. -/
def matchLines (found : Match) : List String :=
  ["    [" ++ toString found.percentage ++ "% similarity]", nameLine found.first,
    nameLine found.second, "      Common : \"" ++ found.evidence ++ "\""]

/-- The heading of a scope. -/
def heading (scope : Provenance) : String :=
  let location := scopeLocation scope
  "  Scope: " ++ scopeTitle scope ++ (if location.isEmpty then "" else "  (" ++ location ++ ")")

/-- The lines of a scope. -/
def scopeLines (width : Nat) (report : ScopeReport) : List String :=
  ["", heading report.scope, "  " ++ rule (width - 2)] ++ report.matched.flatMap matchLines

/-- The line with the totals. -/
def totals (result : CheckResult) : String :=
  "  NAMESAKE — " ++ toString result.matchesFound ++ " similar pair" ++
    pluralEnding result.matchesFound ++ " in " ++ toString result.reports.length ++ " scope" ++
    pluralEnding result.reports.length ++ " (threshold " ++ result.threshold.fixed 2 ++ ")"

/-- A result as a report for people, for a terminal of a given width. -/
def render (columns : Nat) (result : CheckResult) : String :=
  if result.reports.isEmpty then "\n  No similar names found.\n"
  else
    let width := min columns widestReport
    "\n".intercalate
      (["\n" ++ rule width, totals result, rule width] ++
        result.reports.flatMap (scopeLines width) ++ ["\n" ++ rule width])

end Console

end Lookalike
