import Lookalike.Check.Result
import Lookalike.Harvest
import Lookalike.Scan

/-!
# Checking files

A check goes through three stages: it collects the source files that its paths lead to,
harvests each of them, and matches the names of every scope.  The harvests may be
completed in any order; scopes are examined in the order of the collected files, so that
the result does not depend on it.  A file that cannot be harvested and a scope that
cannot be matched are counted as errors and leave everything else as it is.  Only the number
of workers, which is told before they are started, can keep a check from its result.
-/

namespace Lookalike

/-- Why a check has no result. -/
inductive CheckError where
  | config (error : ConfigError)
  /-- There is neither a file nor a folder at the end of a path. -/
  | missing (path : Path)
  /-- The links on the way along a path lead back to themselves. -/
  | linkLoop (path : Path)
  /-- The number of workers has more digits than a message takes. -/
  | tooManyDigits
  /-- The number of workers is not a number at all, so that none is started: the check waits for
  ever. -/
  | noWorkers
  deriving DecidableEq

/-- What is said about a check that has no result.  One that waits for ever says nothing. -/
def CheckError.message : CheckError → String
  | config error => error.message
  | missing path => "No such file or directory: " ++ path.text
  | linkLoop path => "Symlink loop from " ++ quoted path.text
  | tooManyDigits => ConfigError.tooManyDigits.message
  | noWorkers => ""

/-- A check that can begin: its settings are valid and its paths exist. -/
structure Check where
  config : Config
  threshold : Threshold
  paths : List Path

/-! ### Runs -/

/-- The number of names that a scope binds itself; the others come from scopes nested in
it. -/
def Collection.ownNames (collection : Collection) : Nat :=
  match collection.scope with
  | .scope scopePlace =>
      collection.names.countP fun name =>
        match name.origin with
        | .binding place => place.scope == scopePlace.qualifiedName
        | _ => true
  | _ => collection.names.length

/-- A way of matching the names of a scope. -/
abbrev ScopeMatcher := HarvestedScope → Except MatchError (List Match)

/-- Matches the names of scopes against a threshold.  Scopes with certain names are made
to fail. -/
def Threshold.matcher (threshold : Threshold) (failing : List String) : ScopeMatcher :=
  fun scope =>
    if failing.contains scope.place.name then .error (.injected scope.place.qualifiedName)
    else (matchCollection threshold scope.toCollection).map Matching.found

/-- A check that is running: its result and its problems so far, and the scopes of the
files that have been harvested. -/
structure Run where
  result : CheckResult := {}
  problems : List Problem := []
  harvested : List (Path × List HarvestedScope) := []

namespace Run

/-- A run through a number of files, before any of them has been harvested. -/
def start (threshold : Number) (fileCount : Nat) : Run :=
  { result := { filesScanned := fileCount, threshold := threshold } }

/-- Takes in a completed harvest. -/
def takeIn (run : Run) (completed : Path × Harvest) : Run :=
  let problems := run.problems ++ completed.2.problems
  match completed.2.outcome with
  | .ok scopes =>
      { run with
        result := { run.result with filesProcessed := run.result.filesProcessed + 1 }
        problems := problems
        harvested := (completed.1, scopes) :: run.harvested }
  | .error error =>
      { run with
        result := { run.result with errors := run.result.errors + 1 }
        problems := problems ++ [⟨.error, error.message⟩] }

/-- The scopes of a file; a file that was not harvested has none. -/
def scopesOf (run : Run) (file : Path) : List HarvestedScope :=
  ((run.harvested.find? (·.1 == file)).map (·.2)).getD []

/-- Matches the names of a scope. -/
def examine (matcher : ScopeMatcher) (run : Run) (scope : HarvestedScope) : Run :=
  let counted :=
    { run.result with
      scopesExamined := run.result.scopesExamined + 1
      namesHarvested := run.result.namesHarvested + scope.toCollection.ownNames }
  match matcher scope with
  | .error error =>
      { run with
        result := { counted with errors := counted.errors + 1 }
        problems := run.problems ++ [⟨.error, error.message⟩] }
  | .ok [] => { run with result := counted }
  | .ok (found :: others) =>
      let matched := found :: others
      { run with
        result :=
          { counted with
            reports := counted.reports ++ [⟨.scope scope.place, matched⟩]
            matchesFound := counted.matchesFound + matched.length } }

/-- Runs through files whose harvests are completed in a certain order. -/
def through (threshold : Number) (matcher : ScopeMatcher) (files : List Path)
    (completed : List (Path × Harvest)) : Run :=
  let harvested := completed.foldl takeIn (start threshold files.length)
  (files.flatMap harvested.scopesOf).foldl (examine matcher) harvested

end Run

/-! ### Checks -/

/-- A finished check: its result, what it logged about its progress, and its problems. -/
structure Finished where
  result : CheckResult
  progress : List String
  problems : List Problem

/-- What is logged once the files are known. -/
def foundLines (files : List Path) : List String :=
  ["[1/3] Scanning for source files...", "  Found " ++ grouped files.length ++ " source files"]

/-- Tells the number of workers and starts them.  A worker is started as long as there are
fewer. -/
def startWorkers (workers : Number) : Except CheckError String :=
  if !workers.isWritable then .error .tooManyDigits
  else if !workers.geInt 1 then .error .noWorkers
  else .ok ("[2/3] Harvesting names (" ++ workers.text ++ " workers)...")

/-- What is logged about the last stage. -/
def matchingLines (result : CheckResult) : List String :=
  ["[3/3] Matching names per scope...",
    "  " ++ grouped result.matchesFound ++ " similar pairs in " ++ grouped result.reports.length ++
      " scopes (" ++ grouped result.scopesExamined ++ " scopes, " ++
      grouped result.namesHarvested ++ " names, " ++ toString result.errors ++ " errors)"]

namespace Check

/-- Prepares a check of files and folders: the settings are checked first, then the paths
in order. -/
def prepare (tree : FileTree) (config : Config) (paths : List Path) :
    Except CheckError Check := do
  let threshold ← config.validate.mapError CheckError.config
  match paths.find? fun path => !tree.exists? path with
  | some path => throw (.missing path)
  | none => return { config := config, threshold := threshold, paths := paths }

/-- Keeps the first of several paths that lead to the same place. -/
def keepFirst (tree : FileTree) (files : List Path) : List Path :=
  let placed := files.map fun file => (tree.placeOf file, file)
  (placed.eraseDupsBy fun left right => left.1 == right.1).map (·.2)

/-- Scans a folder; a path that leads to a file stands for itself. -/
def scanPath (tree : FileTree) (config : Config) (path : Path) : Scan :=
  if tree.isFolder path then Scan.ofFolder tree config path else { files := [path] }

/-- The files of a check, each once, and the problems of finding them. -/
def collect (check : Check) (tree : FileTree) : Scan :=
  let scans := check.paths.map (scanPath tree check.config)
  { files := keepFirst tree (scans.flatMap Scan.files)
    problems := scans.flatMap Scan.problems }

/-- Runs a check, with scopes of certain names made to fail. -/
def run (check : Check) (tree : FileTree) (failing : List String) :
    Except CheckError Finished := do
  let scan := check.collect tree
  let completed := scan.files.map fun file =>
    (file, harvestFile check.config.propagateNested tree file)
  let run := Run.through check.config.thresholdNumber (check.threshold.matcher failing) scan.files
    completed
  if scan.files.isEmpty then
    return {
      result := run.result
      progress := foundLines scan.files
      problems := scan.problems ++ [⟨.warning, "No source files found to check."⟩] }
  else
    let harvesting ← startWorkers check.config.maxWorkers
    return {
      result := run.result
      progress := foundLines scan.files ++ harvesting :: matchingLines run.result
      problems := scan.problems ++ run.problems }

end Check

end Lookalike
