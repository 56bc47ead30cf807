import Lookalike.Check.Result
import Lookalike.Json.Printer
import Lookalike.Report.Place

/-!
# Reports for programs

A JSON document with a summary and the matches of each scope.  A name comes with those of
its origin's attributes that are known.
-/

namespace Lookalike

namespace Document

/-- The attributes of an origin that a document gives. -/
def originAttributes : List String := ["kind", "file_path", "line", "column", "scope"]

/-- A name and what is known about its origin. -/
def nameEntry (name : Name) : Json :=
  .object
    (("name", name.text.toJson) ::
      originAttributes.filterMap fun known =>
        (name.origin.attribute? known).map fun value => (known, value))

/-- A match with its percentage. -/
def matchEntry (found : Match) : Json :=
  .object
    [("first", nameEntry found.first), ("second", nameEntry found.second),
      ("score", .float found.score), ("percentage", .int found.percentage),
      ("evidence", .string found.evidence)]

/-- A scope with its matches. -/
def scopeEntry (report : ScopeReport) : Json :=
  .object
    [("scope", .string (scopeTitle report.scope)),
      ("file_path", (report.scope.attribute? "file_path").getD .null),
      ("line", (report.scope.attribute? "line").getD .null),
      ("matches", .array (report.matched.map matchEntry))]

/-- A result as a document. -/
def ofResult (result : CheckResult) : Json :=
  .object
    [("summary", .object result.summary), ("reports", .array (result.reports.map scopeEntry))]

/-- The text of a result's document. -/
def render (result : CheckResult) : String :=
  (ofResult result).renderIndented

end Document

end Lookalike
