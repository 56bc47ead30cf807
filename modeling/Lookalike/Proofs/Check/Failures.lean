import Lookalike.Proofs.Check.Schedule
import Lookalike.Proofs.Matching.HarvestedScopes

/-!
# Failures leave everything else as it is

A file whose harvest fails adds to a run nothing but one file and one error, whatever has
been harvested of it before it failed.  A scope whose matching fails is counted like any
other, adds one error, and is missing from the reports; all other reports stay.
-/

namespace Lookalike

/-! ### Files that fail -/

theorem Harvest.scopes_of_failed {harvest : Harvest} (failed : harvest.failed = true) :
    harvest.scopes = [] := by
  cases outcome : harvest.outcome with
  | ok scopes => simp [Harvest.failed, outcome] at failed
  | error error => simp [Harvest.scopes, outcome, Except.toOption]

section

variable {outcomes : Path → Harvest} {broken : Path → Bool} {files : List Path}

theorem flatMap_scopes_eq_filter
    (harvestFails : ∀ file ∈ files, broken file = true → (outcomes file).failed = true) :
    files.flatMap (fun file => (outcomes file).scopes) =
      (files.filter (!broken ·)).flatMap fun file => (outcomes file).scopes := by
  induction files with
  | nil => rfl
  | cons file others ih =>
      have othersEq := ih fun other mem => harvestFails other (List.mem_cons_of_mem file mem)
      cases isBroken : broken file with
      | true =>
          have noScopes := Harvest.scopes_of_failed (harvestFails file List.mem_cons_self isBroken)
          simp [isBroken, noScopes, othersEq]
      | false => simp [isBroken, othersEq]

theorem countP_failed_eq_filter
    (harvestFails : ∀ file ∈ files, broken file = true → (outcomes file).failed = true) :
    files.countP (fun file => (outcomes file).failed) =
      files.countP broken +
        (files.filter (!broken ·)).countP fun file => (outcomes file).failed := by
  have allFail : (files.filter broken).countP (fun file => (outcomes file).failed) =
      (files.filter broken).length := by
    rw [List.countP_eq_length]
    intro file mem
    obtain ⟨fileMem, isBroken⟩ := List.mem_filter.mp mem
    exact harvestFails file fileMem isBroken
  rw [List.countP_eq_countP_filter_add files _ broken, allFail, ← List.countP_eq_length_filter]

theorem countP_processed_eq_filter
    (harvestFails : ∀ file ∈ files, broken file = true → (outcomes file).failed = true) :
    files.countP (fun file => !(outcomes file).failed) =
      (files.filter (!broken ·)).countP fun file => !(outcomes file).failed := by
  have noneSucceeds : (files.filter broken).countP (fun file => !(outcomes file).failed) = 0 := by
    rw [List.countP_eq_zero]
    intro file mem
    obtain ⟨fileMem, isBroken⟩ := List.mem_filter.mp mem
    simp [harvestFails file fileMem isBroken]
  rw [List.countP_eq_countP_filter_add files _ broken, noneSucceeds, Nat.zero_add]

/-- Files that fail add to the number of files and to that of errors, and to nothing else. -/
theorem ofHarvests_eq_filter (threshold : Number) (matcher : ScopeMatcher)
    (harvestFails : ∀ file ∈ files, broken file = true → (outcomes file).failed = true) :
    CheckResult.ofHarvests threshold matcher (files.map outcomes) =
      let rest := CheckResult.ofHarvests threshold matcher
        ((files.filter (!broken ·)).map outcomes)
      { rest with
        filesScanned := rest.filesScanned + files.countP broken
        errors := rest.errors + files.countP broken } := by
  have scopesEq := flatMap_scopes_eq_filter harvestFails
  have failedEq := countP_failed_eq_filter harvestFails
  have processedEq := countP_processed_eq_filter harvestFails
  have lengthEq : files.length = (files.filter (!broken ·)).length + files.countP broken := by
    have split := List.countP_eq_countP_filter_add files (fun _ => true) broken
    simp only [List.countP_true, ← List.countP_eq_length_filter (p := broken)] at split
    omega
  simp only [CheckResult.ofHarvests, List.length_map, List.countP_map, List.flatMap_map,
    Function.comp_def, scopesEq, failedEq, processedEq, lengthEq, CheckResult.mk.injEq, true_and,
    and_true]
  omega

end

/-! ### Scopes that fail -/

/-- Matches scopes as another matcher does, except for some that it is made to fail on. -/
def ScopeMatcher.failingOn (matcher : ScopeMatcher)
    (fails : HarvestedScope → Option MatchError) : ScopeMatcher := fun scope =>
  match fails scope with
  | some error => .error error
  | none => matcher scope

section

variable {matcher : ScopeMatcher}

theorem ScopeMatcher.report?_failingOn (fails : HarvestedScope → Option MatchError)
    (scope : HarvestedScope) :
    (matcher.failingOn fails).report? scope =
      if (fails scope).isNone then matcher.report? scope else none := by
  cases injected : fails scope <;> simp [failingOn, report?, injected]

theorem ScopeMatcher.fails_failingOn (fails : HarvestedScope → Option MatchError)
    {scope : HarvestedScope} (succeeds : matcher.fails scope = false) :
    (matcher.failingOn fails).fails scope = (fails scope).isSome := by
  cases injected : fails scope with
  | none => simpa [failingOn, ScopeMatcher.fails, injected] using succeeds
  | some error => simp [failingOn, ScopeMatcher.fails, injected]

/-- Scopes that are made to fail are missing from the reports and add to the number of errors,
and to nothing else. -/
theorem ofHarvests_failingOn (threshold : Number) (harvests : List Harvest)
    (fails : HarvestedScope → Option MatchError)
    (succeeds : ∀ scope ∈ harvests.flatMap Harvest.scopes, matcher.fails scope = false) :
    CheckResult.ofHarvests threshold (matcher.failingOn fails) harvests =
      let plain := CheckResult.ofHarvests threshold matcher harvests
      let scopes := harvests.flatMap Harvest.scopes
      let reports := (scopes.filter fun scope => (fails scope).isNone).filterMap matcher.report?
      { plain with
        matchesFound := (reports.map (·.matched.length)).sum
        errors := plain.errors + scopes.countP fun scope => (fails scope).isSome
        reports := reports } := by
  have noFailure : (harvests.flatMap Harvest.scopes).countP matcher.fails = 0 := by
    rw [List.countP_eq_zero]
    intro scope mem
    simp [succeeds scope mem]
  have failuresEq : (harvests.flatMap Harvest.scopes).countP (matcher.failingOn fails).fails =
      (harvests.flatMap Harvest.scopes).countP fun scope => (fails scope).isSome := by
    apply List.countP_congr
    intro scope mem
    rw [ScopeMatcher.fails_failingOn fails (succeeds scope mem)]
  have reportsEq : (harvests.flatMap Harvest.scopes).filterMap (matcher.failingOn fails).report? =
      ((harvests.flatMap Harvest.scopes).filter fun scope => (fails scope).isNone).filterMap
        matcher.report? := by
    rw [List.filterMap_filter]
    apply List.filterMap_congr
    intro scope _
    exact ScopeMatcher.report?_failingOn fails scope
  simp only [CheckResult.ofHarvests, noFailure, failuresEq, reportsEq, Nat.add_zero]

end

/-- Matching harvested scopes never fails of itself. -/
theorem Threshold.fails_matcher (threshold : Threshold) (scope : HarvestedScope) :
    (threshold.matcher []).fails scope = false := by
  simp [ScopeMatcher.fails, threshold.matcher_eq_ok scope]

theorem Threshold.countP_fails_matcher (threshold : Threshold) (scopes : List HarvestedScope) :
    scopes.countP (threshold.matcher []).fails = 0 := by
  rw [List.countP_eq_zero]
  intro scope _
  simp [threshold.fails_matcher scope]

/-- The failures that scopes of certain names are made to have. -/
def injectedFailures (failing : List String) (scope : HarvestedScope) : Option MatchError :=
  if failing.contains scope.place.name then some (.injected scope.place.qualifiedName) else none

theorem Threshold.matcher_eq_failingOn (threshold : Threshold) (failing : List String) :
    threshold.matcher failing = (threshold.matcher []).failingOn (injectedFailures failing) := by
  funext scope
  simp only [ScopeMatcher.failingOn, injectedFailures]
  split_ifs with named
  · simp only [matcher, named, if_true]
  · simp only [matcher, named, if_false, List.contains_nil, Bool.false_eq_true]

/-! ### Whole runs -/

/-- Failures are isolated.  When the harvests of some files fail, for whatever reason, the
result is that of a run through the other files, with the files that fail added to the
numbers of files and of errors.  When the matching of some scopes fails, the result is that
of a run without such failures, with the reports on these scopes left out and the scopes
added to the number of errors. -/
theorem result_through_of_failures (check : Check) (tree : FileTree) (outcomes : Path → Harvest)
    {completed : List (Path × Harvest)}
    (everyFileOnce : completed.Perm
      ((check.collect tree).files.map fun file => (file, outcomes file)))
    {broken : Path → Bool}
    (harvestFails : ∀ file ∈ (check.collect tree).files, broken file = true →
      (outcomes file).failed = true)
    {others : List (Path × Harvest)}
    (everyOtherOnce : others.Perm
      (((check.collect tree).files.filter (!broken ·)).map fun file => (file, outcomes file)))
    (fails : HarvestedScope → Option MatchError) :
    let files := (check.collect tree).files
    let threshold := check.config.thresholdNumber
    let plainMatcher := check.threshold.matcher []
    let plain := (Run.through threshold plainMatcher files completed).result
    let scopes := files.flatMap fun file => (outcomes file).scopes
    let reports :=
      (scopes.filter fun scope => (fails scope).isNone).filterMap plainMatcher.report?
    (∀ matcher : ScopeMatcher,
      let rest := (Run.through threshold matcher (files.filter (!broken ·)) others).result
      (Run.through threshold matcher files completed).result =
        { rest with
          filesScanned := rest.filesScanned + files.countP broken
          errors := rest.errors + files.countP broken }) ∧
      plain.reports = scopes.filterMap plainMatcher.report? ∧
      plain.errors = files.countP (fun file => (outcomes file).failed) ∧
      (Run.through threshold (plainMatcher.failingOn fails) files completed).result =
        { plain with
          matchesFound := (reports.map (·.matched.length)).sum
          errors := plain.errors + scopes.countP (fun scope => (fails scope).isSome)
          reports := reports } ∧
      ∀ file, (harvestFile check.config.propagateNested tree file).failed = true ↔
        Unharvestable check.config.propagateNested tree file := by
  intro files threshold plainMatcher plain scopes reports
  have distinct := check.nodup_collect tree
  have runEq (matcher : ScopeMatcher) :
      (Run.through threshold matcher files completed).result =
        .ofHarvests threshold matcher (files.map outcomes) :=
    result_through_eq_ofHarvests threshold matcher distinct everyFileOnce
  have plainEq : plain = .ofHarvests threshold plainMatcher (files.map outcomes) :=
    runEq plainMatcher
  have scopesEq : (files.map outcomes).flatMap Harvest.scopes = scopes := List.flatMap_map ..
  refine ⟨fun matcher => ?_, ?_, ?_, ?_, fun file => failed_harvestFile_iff⟩
  · rw [runEq, result_through_eq_ofHarvests threshold matcher (distinct.filter _) everyOtherOnce]
    exact ofHarvests_eq_filter threshold matcher harvestFails
  · rw [plainEq, ← scopesEq]
    rfl
  · have noFailure := check.threshold.countP_fails_matcher scopes
    simp only [plainEq, CheckResult.ofHarvests, scopesEq, plainMatcher, noFailure, List.countP_map]
    rfl
  · rw [runEq, ofHarvests_failingOn threshold _ fails
      fun scope _ => check.threshold.fails_matcher scope, plainEq, scopesEq]

/-- One of two files cannot be harvested, and a function of the other one cannot be matched. -/
theorem result_through_of_failures_of_pair :
    let files := (pairCheck.collect pairTree).files
    let harvests := files.map fun file => (file, pairHarvests file)
    let broken := fun file : Path => file.names == ["b.py"]
    let others := (files.filter (!broken ·)).map fun file => (file, pairHarvests file)
    let threshold := pairCheck.config.thresholdNumber
    let matcher := (pairCheck.threshold.matcher []).failingOn (injectedFailures ["outer"])
    let result := (Run.through threshold matcher files harvests.reverse).result
    let rest := (Run.through threshold matcher (files.filter (!broken ·)) others).result
    harvests.reverse.Perm harvests ∧
      (∀ file ∈ files, broken file = true → (pairHarvests file).failed = true) ∧
      others.Perm others ∧
      files.countP broken = 1 ∧ result.errors = rest.errors + 1 ∧ result.errors = 2 := by
  intro files harvests broken others threshold matcher result rest
  have filesEq : files = _ := files_pairCheck
  have everyFileOnce : harvests.reverse.Perm harvests := List.reverse_perm harvests
  have harvestFails : ∀ file ∈ files, broken file = true → (pairHarvests file).failed = true := by
    rw [filesEq]
    decide
  have oneBroken : files.countP broken = 1 := by
    rw [filesEq]
    decide
  obtain ⟨isolated, -, plainErrors, failing, -⟩ := result_through_of_failures pairCheck pairTree
    pairHarvests everyFileOnce harvestFails (List.Perm.refl others) (injectedFailures ["outer"])
  refine ⟨everyFileOnce, harvestFails, List.Perm.refl others, oneBroken, ?_, ?_⟩
  · have errorsEq : result.errors = rest.errors + files.countP broken :=
      congrArg CheckResult.errors (isolated matcher)
    rw [errorsEq, oneBroken]
  · have errorsEq : result.errors = _ := congrArg CheckResult.errors failing
    simp only [plainErrors] at errorsEq
    rw [errorsEq, files_pairCheck]
    decide

end Lookalike
