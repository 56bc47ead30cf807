import Lookalike.Matching

/-!
# Results of a check

A result counts what a check has gone through and reports the scopes with matches.
-/

namespace Lookalike

/-- The matches of one scope. -/
structure ScopeReport where
  scope : Provenance
  matched : List Match := []
  deriving Inhabited

/-- What a check has found. -/
structure CheckResult where
  filesScanned : Nat := 0
  filesProcessed : Nat := 0
  scopesExamined : Nat := 0
  namesHarvested : Nat := 0
  matchesFound : Nat := 0
  errors : Nat := 0
  /-- The threshold as it was given. -/
  threshold : Number := .float (.finite 0)
  /-- The scopes with matches, in the order of their files and then of their completion. -/
  reports : List ScopeReport := []
  deriving Inhabited

/-! ### Results as values -/

/-- A provenance as a value: the places of scopes and bindings become plain objects. -/
def Provenance.toJson : Provenance → Json
  | .scope place => .object (Provenance.scope place).attributes
  | .binding place => .object (Provenance.binding place).attributes
  | .foreign attributes text => .object [("opaque", .object attributes), ("text", .string text)]
  | .value plain => plain

/-- The text of a name as a value. -/
def NameText.toJson : NameText → Json
  | .letters text => .string text
  | .unsized value => value

/-- A name as a value. -/
def Name.toJson (name : Name) : Json :=
  .object [("text", name.text.toJson), ("origin", name.origin.toJson)]

/-- A match as a value. -/
def Match.toJson (found : Match) : Json :=
  .object
    [("first", found.first.toJson), ("second", found.second.toJson),
      ("score", .float found.score), ("evidence", .string found.evidence)]

/-- The matches of a scope as a value. -/
def ScopeReport.toJson (report : ScopeReport) : Json :=
  .object
    [("scope", report.scope.toJson), ("matches", .array (report.matched.map Match.toJson))]

namespace CheckResult

/-- The counts of a result and its threshold by name. -/
def summary (result : CheckResult) : List (String × Json) :=
  [("files_scanned", .nat result.filesScanned), ("files_processed", .nat result.filesProcessed),
    ("scopes_examined", .nat result.scopesExamined),
    ("names_harvested", .nat result.namesHarvested), ("matches_found", .nat result.matchesFound),
    ("errors", .nat result.errors), ("threshold", .number result.threshold)]

/-- A result as a value. -/
def toJson (result : CheckResult) : Json :=
  .object (result.summary ++ [("reports", .array (result.reports.map ScopeReport.toJson))])

end CheckResult

end Lookalike
