import Lookalike.CommandLine
import Lookalike.Demonstration.Words

/-!
# The demonstration

A program that shows what clients can do: it checks a folder, compares a few texts and
matches a list of names, and reports on each step.
-/

namespace Lookalike

namespace Demonstration

/-- What the program is called. -/
def programName : String := "try_api.py"

/-! ### Usage -/

/-- Puts parts on lines of a limited width.  The lines so far and the parts of the current
line come last first; `used` is the width of the current line. -/
def wrapFrom (width indent used : Nat) (lines : List (List String)) (line : List String) :
    List String → List (List String)
  | [] => if line.isEmpty then lines.reverse else (line.reverse :: lines).reverse
  | part :: parts =>
      if width < used + 1 + part.length ∧ ¬ line.isEmpty then
        wrapFrom width indent (indent - 1 + part.length + 1) (line.reverse :: lines) [part] parts
      else wrapFrom width indent (used + part.length + 1) lines (part :: line) parts

/-- Lines of parts behind an indentation. -/
def indented (indent : Nat) (lines : List (List String)) : List String :=
  lines.map fun line =>
    String.ofList (List.replicate indent ' ') ++ " ".intercalate line

/-- The parts of the usage that are options. -/
def optionParts : List String := ["[-h]", "[--threshold THRESHOLD]"]

/-- The part of the usage that is the path. -/
def pathParts : List String := ["[path]"]

/-- How the program is used, for a terminal of a given width. -/
def usage (columns : Nat) : String :=
  let opening := "usage: "
  let width := columns - 2
  let whole := opening ++ " ".intercalate (programName :: optionParts ++ pathParts)
  if whole.length ≤ width then whole ++ "\n"
  else if 4 * (opening.length + programName.length) ≤ 3 * width then
    let indent := opening.length + programName.length + 1
    let first := wrapFrom width indent (opening.length - 1) [] [] (programName :: optionParts)
    let second := wrapFrom width indent (indent - 1) [] [] pathParts
    let lines := indented indent first ++ indented indent second
    opening ++ (("\n".intercalate lines).drop indent).toString ++ "\n"
  else
    let indent := opening.length
    let together := wrapFrom width indent (indent - 1) [] [] (optionParts ++ pathParts)
    let lines :=
      if together.length ≤ 1 then together
      else wrapFrom width indent (indent - 1) [] [] optionParts ++
        wrapFrom width indent (indent - 1) [] [] pathParts
    opening ++ "\n".intercalate (programName :: indented indent lines) ++ "\n"

/-- What comes of words that do not fit. -/
def misuse (columns : Nat) (fault : Fault) : Outcome :=
  { exit := 2
    errors := usage columns ++ programName ++ ": error: " ++ fault.message ++ "\n" }

/-- The help that is shown on request. -/
def help (columns : Nat) : Outcome :=
  { output := fun _ => usage columns ++ "\n" ++ String.join
      ["Manually test Namesake API: check a directory and compare names.\n\n",
        "positional arguments:\n",
        "  path                  Directory to check (default: src)\n\n",
        "options:\n",
        "  -h, --help            show this help message and exit\n",
        "  --threshold THRESHOLD\n",
        "                        Similarity threshold in (0, 1]\n"] }

/-! ### Steps -/

/-- A line of equals signs. -/
def doubleRule : String := String.ofList (List.replicate 60 '=')

/-- The heading of a step. -/
def heading (title : String) : String :=
  doubleRule ++ "\n  " ++ title ++ "\n" ++ doubleRule ++ "\n"

/-- The report on the check of a folder. -/
def checkReport (columns : Nat) (root : Path) (result : CheckResult) : String :=
  heading "STEP 1: Check" ++ "  Path: " ++ root.text ++ "\n\n" ++
    "\n  Result: " ++ toString result.filesProcessed ++ " files, " ++
    toString result.scopesExamined ++ " scopes, " ++ toString result.namesHarvested ++
    " names, " ++ toString result.matchesFound ++ " similar pairs, " ++
    toString result.errors ++ " errors.\n" ++ Console.render columns result ++ "\n"

/-- The texts that are compared. -/
def comparedTexts : List (String × String) :=
  [("ALEXANDRE", "ALEKSANDER"), ("customer_name", "customer_names"), ("buffer", "fer")]

/-- The line about a comparison. -/
def comparisonLine (comparison : Comparison) : String :=
  "  " ++ comparison.first ++ " ~ " ++ comparison.second ++ ": " ++ comparison.score.fixed 2 ++
    "  common=\"" ++ comparison.evidence ++ "\"" ++
    (if comparison.exceeds then "  (above threshold)" else "") ++ "\n"

/-- The report on the comparisons. -/
def comparisonReport (client : Client) : String :=
  "\n" ++ heading "STEP 2: Compare" ++
    String.join (comparedTexts.map fun texts => comparisonLine (client.compare texts.1 texts.2))

/-- The names that are matched. -/
def matchedNames : List String :=
  ["user_id", "user_ids", "userid", "session", "sessions_count"]

/-- The line about a match. -/
def matchLine (found : Match) : String :=
  "    " ++ found.first.display ++ " ~ " ++ found.second.display ++ "  [" ++
    toString found.percentage ++ "%]  \"" ++ found.evidence ++ "\"\n"

/-- The report on the list of names. -/
def matchReport (client : Client) : String :=
  let found :=
    match client.matchNames (matchedNames.map Name.ofString) with
    | .ok matching => matching.found
    | .error _ => []
  "\n" ++ heading "STEP 3: Match a list of names" ++ "  Names: [" ++
    ", ".intercalate (matchedNames.map quoted) ++ "]\n\n" ++ String.join (found.map matchLine)

/-- The closing words. -/
def closing : String :=
  "\n" ++ doubleRule ++ "\n  Done. Try your own names in Python:\n" ++
    "    from namesake import Namesake\n    client = Namesake()\n" ++
    "    client.compare('first_name', 'firstname')\n" ++ doubleRule ++ "\n"

/-! ### Running -/

/-- A failure that is told in the output. -/
def failure (message : String) : Outcome :=
  { exit := 1, output := fun _ => "Error: " ++ message ++ "\n" }

/-- The path that is checked when none is given. -/
def defaultPath : Path := Path.ofText "src"

/-- The folder to be checked.  The working directory stands in for the default if there is
no such folder. -/
def checkedRoot (tree : FileTree) (path : Path) : Except String Path :=
  let root := tree.resolve path
  if tree.exists? root then .ok root
  else if path = defaultPath then .ok tree.homePath
  else .error ("path does not exist: " ++ path.text)

/-- The settings that the words replace. -/
def overrides (read : ReadWords) : List (String × Json) :=
  match read.threshold with
  | some number => [("similarity_threshold", .float number)]
  | none => []

/-- Runs the steps.  The number of workers comes from the environment, where it can be told. -/
def runSteps (around : Surroundings) (root : Path) (client : Client) : Outcome :=
  match client.check around.tree [root] with
  | .error error => failure error.message
  | .ok finished =>
      { output := fun _ =>
          checkReport around.columns root finished.result ++ comparisonReport client ++
            matchReport client ++ closing }

/-- Runs the program with its words. -/
def run (around : Surroundings) (words : List String) : Outcome :=
  match readWords words with
  | .error fault => misuse around.columns fault
  | .ok read =>
      if read.asksHelp then help around.columns
      else
        match checkedRoot around.tree ((read.path.map Path.ofText).getD defaultPath) with
        | .error message => failure message
        | .ok root =>
            match Client.ofEnvironment around.environment (overrides read) with
            | .error error => failure error.message
            | .ok client => runSteps around root client

end Demonstration

end Lookalike
