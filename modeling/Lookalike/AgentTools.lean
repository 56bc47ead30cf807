import Lookalike.Client
import Lookalike.Report.Document

/-!
# Tools for agents

Three tools that an agent calls with JSON arguments and that answer with JSON text:
comparing two names, finding similar names in a list, and checking a file or folder.
A call that goes wrong is answered with a description of what is wrong.
-/

namespace Lookalike

namespace AgentTools

/-- The names of the tools. -/
def names : List String := ["check_path", "compare_names", "find_similar_names"]

/-- A comparison as an answer. -/
def comparisonEntry (comparison : Comparison) : Json :=
  .object
    [("first", .string comparison.first), ("second", .string comparison.second),
      ("score", .float comparison.score),
      ("percentage", .int (wholePercentage comparison.score)),
      ("evidence", .string comparison.evidence),
      ("threshold", .float comparison.threshold.number),
      ("exceeds_threshold", .bool comparison.exceeds)]

/-- Compares two names. -/
def compareNames (threshold : Threshold) (first second : NameText) : Except MatchFault Json := do
  let firstText ← first.measured
  let secondText ← second.measured
  return comparisonEntry (compareTexts firstText secondText threshold)

/-- A match as an answer. -/
def matchEntry (found : Match) : Json :=
  .object
    [("first", .string found.first.display), ("second", .string found.second.display),
      ("score", .float found.score), ("percentage", .int found.percentage),
      ("evidence", .string found.evidence)]

/-- The names to be matched: any values are taken by their texts, and empty texts are left
out. -/
def givenNames (values : List Json) : List Name :=
  ((values.map Json.display).filter fun text => !text.isEmpty).map Name.ofString

/-- Finds the similar names in a list of values. -/
def findSimilar (threshold : Threshold) (values : List Json) : Except MatchError Json := do
  let matching ← matchCollection threshold { names := givenNames values }
  return .object
    [("threshold", .float threshold.number), ("matches", .array (matching.found.map matchEntry))]

/-- The path that an agent asks for.  The working directory may stand for another folder,
named by the environment. -/
def requestedPath (environment : Environment) (text : String) : Path :=
  let default := strip ((environment.get? "NAMESAKE_DEFAULT_PATH").getD "")
  if text = "." ∧ ¬ default.isEmpty then Path.ofText default else Path.ofText text

/-- The absolute path that an agent asks for. -/
def resolvePath (environment : Environment) (tree : FileTree) (text : String) :
    Except CheckError Path :=
  Client.locate tree (requestedPath environment text)

/-! ### Calls -/

/-- A description of what is wrong with a call, with further fields. -/
def failed (message : String) (further : List (String × Json)) : String :=
  (Json.object (("error", .string message) :: further)).render

/-- The text of a value that is given as a name. -/
def givenText : Json → NameText
  | .string text => .letters text
  | value => .unsized value

/-- Answers a call for the comparison of two names. -/
def answerCompare (client : Client) (first second : Json) : String :=
  match compareNames client.threshold (givenText first) (givenText second) with
  | .ok answer => answer.render
  | .error fault => failed fault.message []

/-- The values of a sequence: the items of an array, the letters of a text, the field names
of an object. -/
def items? : Json → Option (List Json)
  | .array values => some values
  | .string text => some (text.toList.map fun letter => .string (String.singleton letter))
  | .object fields => some (fields.map fun field => .string field.1)
  | _ => none

/-- Answers a call for the similar names in a list. -/
def answerFind (client : Client) (given : Json) : String :=
  match items? given with
  | none => failed ("'" ++ given.typeName ++ "' object is not iterable") [("matches", .array [])]
  | some values =>
      match findSimilar client.threshold values with
      | .ok answer => answer.render
      | .error error => failed error.message [("matches", .array [])]

/-- Checks the file or folder that an agent asks for. -/
def checkPath (client : Client) (environment : Environment) (tree : FileTree) (text : String) :
    Except CheckError CheckResult := do
  let path ← resolvePath environment tree text
  let check ← Check.prepare tree client.config [path]
  return (← check.run tree []).result

/-- Answers a call for the check of a file or folder.  A check without workers is never answered;
an empty message stands for that. -/
def answerCheck (client : Client) (environment : Environment) (tree : FileTree)
    (path : Json) : String :=
  match path with
  | .string text =>
      match checkPath client environment tree text with
      | .ok result => Document.render result
      | .error error => failed error.message [("reports", .array [])]
  | value =>
      failed ("expected str, bytes or os.PathLike object, not " ++ value.typeName)
        [("reports", .array [])]

/-- Answers a call of a tool with its arguments by name. -/
def call (client : Client) (environment : Environment) (tree : FileTree) (tool : String)
    (arguments : Json) : String :=
  let argument := fun name => (arguments.field? name).getD .null
  match tool with
  | "compare_names" => answerCompare client (argument "first") (argument "second")
  | "find_similar_names" => answerFind client (argument "names")
  | _ => answerCheck client environment tree ((arguments.field? "path").getD (.string "."))

end AgentTools

end Lookalike
