import Lookalike.Check
import Lookalike.Proofs.Harvest.Outcome
import Mathlib.Algebra.GroupWithZero.Nat
import Mathlib.Data.List.Basic

/-!
# What a run comes to

The result of a run is told here without a run.  Taking in a harvest counts a file or an
error and keeps the scopes of the file; examining a scope counts it and its names and adds
its report.  So the files are counted by their harvests, in whatever order these are
completed, and as long as every file is completed once, its scopes are the ones that are
examined when its turn comes.
-/

namespace Lookalike

/-! ### Steps -/

namespace ScopeMatcher

/-- Whether the names of a scope cannot be matched. -/
def fails (matcher : ScopeMatcher) (scope : HarvestedScope) : Bool :=
  !(matcher scope).isOk

/-- The report on a scope that has matches. -/
def report? (matcher : ScopeMatcher) (scope : HarvestedScope) : Option ScopeReport :=
  match matcher scope with
  | .ok (found :: others) => some { scope := .scope scope.place, matched := found :: others }
  | .ok [] => none
  | .error _ => none

end ScopeMatcher

namespace Run

theorem result_takeIn (run : Run) (completed : Path × Harvest) :
    (run.takeIn completed).result =
      { run.result with
        filesProcessed :=
          run.result.filesProcessed + if !completed.2.failed then 1 else 0
        errors := run.result.errors + if completed.2.failed then 1 else 0 } := by
  cases outcome : completed.2.outcome <;>
    simp [takeIn, Harvest.failed, outcome]

theorem result_foldl_takeIn (run : Run) (completed : List (Path × Harvest)) :
    (completed.foldl takeIn run).result =
      { run.result with
        filesProcessed := run.result.filesProcessed + completed.countP (!·.2.failed)
        errors := run.result.errors + completed.countP (·.2.failed) } := by
  induction completed generalizing run with
  | nil => rfl
  | cons first later ih =>
      rw [List.foldl_cons, ih, result_takeIn]
      simp only [List.countP_cons, Nat.add_assoc, Nat.add_comm]

theorem result_examine (matcher : ScopeMatcher) (run : Run) (scope : HarvestedScope) :
    (run.examine matcher scope).result =
      { run.result with
        scopesExamined := run.result.scopesExamined + 1
        namesHarvested := run.result.namesHarvested + scope.toCollection.ownNames
        matchesFound := run.result.matchesFound +
          ((matcher.report? scope).toList.map (·.matched.length)).sum
        errors := run.result.errors + if matcher.fails scope then 1 else 0
        reports := run.result.reports ++ (matcher.report? scope).toList } := by
  rcases matched : matcher scope with error | (_ | ⟨found, others⟩) <;>
    simp [examine, ScopeMatcher.fails, ScopeMatcher.report?, matched]

theorem result_foldl_examine (matcher : ScopeMatcher) (run : Run)
    (scopes : List HarvestedScope) :
    (scopes.foldl (examine matcher) run).result =
      { run.result with
        scopesExamined := run.result.scopesExamined + scopes.length
        namesHarvested := run.result.namesHarvested +
          (scopes.map (·.toCollection.ownNames)).sum
        matchesFound := run.result.matchesFound +
          ((scopes.filterMap matcher.report?).map (·.matched.length)).sum
        errors := run.result.errors + scopes.countP matcher.fails
        reports := run.result.reports ++ scopes.filterMap matcher.report? } := by
  induction scopes generalizing run with
  | nil => simp
  | cons scope later ih =>
      rw [List.foldl_cons, ih, result_examine]
      cases reported : matcher.report? scope <;>
        simp [reported, List.countP_cons, Nat.add_assoc, Nat.add_comm, Nat.add_left_comm]

/-! ### What is known of a file -/

theorem scopesOf_takeIn_self {run : Run} {completed : Path × Harvest}
    (fresh : run.scopesOf completed.1 = []) :
    (run.takeIn completed).scopesOf completed.1 = completed.2.scopes := by
  cases outcome : completed.2.outcome with
  | ok scopes => simp [takeIn, scopesOf, Harvest.scopes, outcome, Except.toOption]
  | error error =>
      simp only [Harvest.scopes, outcome, takeIn, Except.toOption, Option.getD_none]
      exact fresh

theorem scopesOf_takeIn_of_ne {run : Run} {completed : Path × Harvest} {file : Path}
    (other : completed.1 ≠ file) : (run.takeIn completed).scopesOf file = run.scopesOf file := by
  cases outcome : completed.2.outcome with
  | ok scopes => simp [takeIn, scopesOf, outcome, other]
  | error error => simp [takeIn, scopesOf, outcome]

theorem scopesOf_foldl_takeIn_of_not_mem {run : Run} {completed : List (Path × Harvest)}
    {file : Path} (notMem : file ∉ completed.map (·.1)) :
    (completed.foldl takeIn run).scopesOf file = run.scopesOf file := by
  induction completed generalizing run with
  | nil => rfl
  | cons first later ih =>
      rw [List.map_cons, List.mem_cons, not_or] at notMem
      rw [List.foldl_cons, ih notMem.2, scopesOf_takeIn_of_ne (Ne.symm notMem.1)]

/-- When every file is completed once, what is known of a file in the end is its harvest. -/
theorem scopesOf_foldl_takeIn {run : Run} {completed : List (Path × Harvest)}
    (once : (completed.map (·.1)).Nodup) {file : Path} {harvest : Harvest}
    (mem : (file, harvest) ∈ completed) (fresh : run.scopesOf file = []) :
    (completed.foldl takeIn run).scopesOf file = harvest.scopes := by
  -- Until its own harvest is taken in, nothing is known of the file; afterwards nothing changes.
  induction completed generalizing run with
  | nil => exact absurd mem List.not_mem_nil
  | cons first later ih =>
      rw [List.map_cons, List.nodup_cons] at once
      rw [List.foldl_cons]
      rcases List.mem_cons.mp mem with rfl | laterMem
      · rw [scopesOf_foldl_takeIn_of_not_mem once.1]
        exact scopesOf_takeIn_self fresh
      · have other : first.1 ≠ file := by
          rintro rfl
          exact once.1 (List.mem_map.mpr ⟨_, laterMem, rfl⟩)
        apply ih once.2 laterMem
        rw [scopesOf_takeIn_of_ne other, fresh]

end Run

/-! ### Whole runs -/

/-- The result that a list of harvests comes to, told without a run: the files and scopes are
counted, and the reports are those of the scopes with matches. -/
def CheckResult.ofHarvests (threshold : Number) (matcher : ScopeMatcher)
    (harvests : List Harvest) : CheckResult :=
  let scopes := harvests.flatMap Harvest.scopes
  { filesScanned := harvests.length
    filesProcessed := harvests.countP (!·.failed)
    scopesExamined := scopes.length
    namesHarvested := (scopes.map (·.toCollection.ownNames)).sum
    matchesFound := ((scopes.filterMap matcher.report?).map (·.matched.length)).sum
    errors := harvests.countP Harvest.failed + scopes.countP matcher.fails
    threshold := threshold
    reports := scopes.filterMap matcher.report? }

/-- In whatever order the harvests of distinct files are completed, a run comes to the result
of the harvests in the order of the files. -/
theorem result_through_eq_ofHarvests (threshold : Number) (matcher : ScopeMatcher)
    {files : List Path} (distinct : files.Nodup) {outcomes : Path → Harvest}
    {completed : List (Path × Harvest)}
    (complete : completed.Perm (files.map fun file => (file, outcomes file))) :
    (Run.through threshold matcher files completed).result =
      .ofHarvests threshold matcher (files.map outcomes) := by
  have once : (completed.map (·.1)).Nodup := by
    have filesPerm := complete.map (·.1)
    rw [List.map_map] at filesPerm
    exact filesPerm.nodup_iff.mpr (by simpa [Function.comp_def] using distinct)
  have scopesEq : files.flatMap
      (completed.foldl Run.takeIn (Run.start threshold files.length)).scopesOf =
        (files.map outcomes).flatMap Harvest.scopes := by
    rw [List.flatMap_map]
    apply List.flatMap_congr
    intro file mem
    apply Run.scopesOf_foldl_takeIn once _ rfl
    exact complete.mem_iff.mpr (List.mem_map_of_mem mem)
  have failedEq : completed.countP (·.2.failed) = (files.map outcomes).countP Harvest.failed := by
    rw [complete.countP_eq, List.countP_map, List.countP_map]
    rfl
  have succeededEq : completed.countP (!·.2.failed) =
      (files.map outcomes).countP (!·.failed) := by
    rw [complete.countP_eq, List.countP_map, List.countP_map]
    rfl
  simp only [Run.through]
  rw [scopesEq, Run.result_foldl_examine, Run.result_foldl_takeIn, failedEq, succeededEq]
  simp [CheckResult.ofHarvests, Run.start]

/-! ### One file after the other -/

namespace Run

/-- Takes in the harvest of a file and examines its scopes at once. -/
def takeInAndExamine (matcher : ScopeMatcher) (run : Run) (completed : Path × Harvest) : Run :=
  completed.2.scopes.foldl (examine matcher) (run.takeIn completed)

/-- Goes through files one after the other, in order. -/
def inTurn (threshold : Number) (matcher : ScopeMatcher) (completed : List (Path × Harvest)) :
    Run :=
  completed.foldl (takeInAndExamine matcher) (start threshold completed.length)

theorem result_foldl_takeInAndExamine (matcher : ScopeMatcher) (run : Run)
    (completed : List (Path × Harvest)) :
    let total : CheckResult := .ofHarvests run.result.threshold matcher (completed.map (·.2))
    (completed.foldl (takeInAndExamine matcher) run).result =
      { run.result with
        filesProcessed := run.result.filesProcessed + total.filesProcessed
        scopesExamined := run.result.scopesExamined + total.scopesExamined
        namesHarvested := run.result.namesHarvested + total.namesHarvested
        matchesFound := run.result.matchesFound + total.matchesFound
        errors := run.result.errors + total.errors
        reports := run.result.reports ++ total.reports } := by
  induction completed generalizing run with
  | nil => simp [CheckResult.ofHarvests]
  | cons first later ih =>
      rw [List.foldl_cons, ih, takeInAndExamine, result_foldl_examine, result_takeIn]
      simp [CheckResult.ofHarvests, List.countP_cons, Nat.add_assoc, Nat.add_comm,
        Nat.add_left_comm]

end Run

end Lookalike
