import Lookalike.Proofs.Check.Collection
import Lookalike.Proofs.Check.Totals
import Lookalike.Proofs.Config.Settings

/-!
# The result does not depend on the order of harvests

Harvests may be completed in any order; all that is known of the order is that every
collected file is completed once.  The result is always the one that comes of going through
the files one after the other, each harvested and matched before the next one is begun.

A check that has files to harvest tells the number of its workers first.  If it cannot, or if
none is started, it has no result.
-/

namespace Lookalike

/-! ### Workers -/

namespace Check

/-- The result that the files of a check come to, whose harvests are taken in in the order of the
files. -/
def result (check : Check) (tree : FileTree) (failing : List String) : CheckResult :=
  .ofHarvests check.config.thresholdNumber (check.threshold.matcher failing)
    ((check.collect tree).files.map (harvestFile check.config.propagateNested tree))

/-- How a check ends whose files come to a result.  Without files there are no workers to be
told and started. -/
def ending (check : Check) (tree : FileTree) (result : CheckResult) :
    Except CheckError CheckResult :=
  if (check.collect tree).files = [] then .ok result
  else if check.config.maxWorkers.isWritable = false then .error .tooManyDigits
  else if check.config.maxWorkers.geInt 1 = false then .error .noWorkers
  else .ok result

/-- A check takes in the harvests of its files in the order of the files, unless its workers
cannot be told or started. -/
theorem map_result_run (check : Check) (tree : FileTree) (failing : List String) :
    (check.run tree failing).map Finished.result =
      check.ending tree (check.result tree failing) := by
  rw [result, ← result_through_eq_ofHarvests _ _ (check.nodup_collect tree) (List.Perm.refl _), run,
    ending]
  by_cases noFiles : (check.collect tree).files = []
  · simp [noFiles, Except.map, pure, Except.pure]
  · cases writable : check.config.maxWorkers.isWritable <;>
      cases started : check.config.maxWorkers.geInt 1 <;>
      simp [noFiles, startWorkers, writable, started, Except.map, bind, Except.bind, pure,
        Except.pure]

theorem eq_of_ending_eq_ok {check : Check} {tree : FileTree} {result ended : CheckResult}
    (ends : check.ending tree result = .ok ended) : ended = result := by
  rw [ending] at ends
  split_ifs at ends <;> cases ends <;> rfl

theorem result_of_run {check : Check} {tree : FileTree} {failing : List String}
    {finished : Finished} (ran : check.run tree failing = .ok finished) :
    finished.result = check.result tree failing := by
  have ended := check.map_result_run tree failing
  rw [ran] at ended
  exact eq_of_ending_eq_ok ended.symm

theorem exists_run_eq_ok {check : Check} {tree : FileTree} {failing : List String}
    {result : CheckResult} (ends : check.ending tree (check.result tree failing) = .ok result) :
    ∃ finished, check.run tree failing = .ok finished ∧
      finished.result = check.result tree failing := by
  have ended := check.map_result_run tree failing
  rw [ends] at ended
  cases ran : check.run tree failing with
  | error error =>
      rw [ran] at ended
      cases ended
  | ok finished => exact ⟨finished, rfl, result_of_run ran⟩

/-- With at least one worker, all that is asked is that their number can be told. -/
theorem ending_eq_of_geInt {check : Check} (atLeastOne : check.config.maxWorkers.geInt 1 = true)
    (tree : FileTree) (result : CheckResult) :
    check.ending tree result =
      if (check.collect tree).files = [] ∨ check.config.maxWorkers.isWritable = true then .ok result
      else .error .tooManyDigits := by
  by_cases noFiles : (check.collect tree).files = [] <;>
    cases writable : check.config.maxWorkers.isWritable <;>
    simp [ending, noFiles, writable, atLeastOne]

/-- The number of workers that a check has by default can be told, and workers are started. -/
theorem ending_of_default {check : Check} (isDefault : check.config.maxWorkers = .int 4)
    (tree : FileTree) (result : CheckResult) : check.ending tree result = .ok result := by
  rw [ending_eq_of_geInt (by rw [isDefault]; rfl), isDefault,
    if_pos (Or.inr Number.isWritable_four)]

/-- The same check with another number of workers. -/
def withWorkers (check : Check) (workers : Number) : Check :=
  { check with config := { check.config with maxWorkers := workers } }

end Check

/-! ### Orders -/

theorem Run.result_inTurn (threshold : Number) (matcher : ScopeMatcher) (files : List Path)
    (outcomes : Path → Harvest) :
    (inTurn threshold matcher (files.map fun file => (file, outcomes file))).result =
      .ofHarvests threshold matcher (files.map outcomes) := by
  rw [inTurn, result_foldl_takeInAndExamine, List.map_map]
  simp [start, CheckResult.ofHarvests, Function.comp_def]

/-- Harvests of two files, of which only that of `a.py` succeeds. -/
def pairHarvests (file : Path) : Harvest :=
  if file.names = ["a.py"] then
    { outcome := .ok ((moduleScopes "a.py" nestedStatements).map (·.harvested true)) }
  else { outcome := .error (.nullCharacter file.text) }

end Lookalike
