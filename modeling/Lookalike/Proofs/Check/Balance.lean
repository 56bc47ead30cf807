import Lookalike.Proofs.Check.Failures
import Lookalike.Proofs.Check.Preparation

/-!
# The books of a run balance

Every file of a run is processed or has failed, every name that is counted is one that a
scope binds itself, and every examined scope is reported, has failed, or has no matches.
This holds of all prepared checks, in whatever order harvests are completed and whichever
scopes fail.
-/

namespace Lookalike

namespace ScopeMatcher

variable {matcher : ScopeMatcher}

/-- Whether the names of a scope can be matched and have no matches. -/
def findsNothing (matcher : ScopeMatcher) (scope : HarvestedScope) : Bool :=
  match matcher scope with
  | .ok [] => true
  | _ => false

/-- An examined scope meets with just one of three ends. -/
theorem count_ends_eq_one (matcher : ScopeMatcher) (scope : HarvestedScope) :
    [(matcher.report? scope).isSome, matcher.fails scope, matcher.findsNothing scope].count true =
      1 := by
  rcases matched : matcher scope with error | (_ | ⟨found, others⟩) <;>
    simp [report?, fails, findsNothing, matched]

theorem length_eq_add_countP (matcher : ScopeMatcher) (scopes : List HarvestedScope) :
    scopes.length = (scopes.filterMap matcher.report?).length + scopes.countP matcher.fails +
      scopes.countP matcher.findsNothing := by
  induction scopes with
  | nil => rfl
  | cons scope later ih =>
      have oneEnd := matcher.count_ends_eq_one scope
      rw [List.length_cons, ih, List.countP_cons, List.countP_cons]
      cases reported : matcher.report? scope <;> cases failed : matcher.fails scope <;>
        cases nothing : matcher.findsNothing scope <;>
        simp [reported, failed, nothing] at oneEnd ⊢ <;> omega

/-- A report is on matches that the matcher has found. -/
theorem eq_ok_of_report?_eq_some {scope : HarvestedScope} {report : ScopeReport}
    (reported : matcher.report? scope = some report) :
    matcher scope = .ok report.matched ∧ report.matched ≠ [] := by
  rcases matched : matcher scope with error | (_ | ⟨found, others⟩) <;>
    simp only [report?, matched, reduceCtorEq, Option.some.injEq] at reported
  cases reported
  exact ⟨rfl, List.cons_ne_nil found others⟩

end ScopeMatcher

/-! ### Books -/

/-- The books of a result balance: its numbers and its reports are those that harvests and a
matcher come to. -/
structure CheckResult.Balances (result : CheckResult) (harvests : List Harvest)
    (matcher : ScopeMatcher) : Prop where
  filesScanned : result.filesScanned = harvests.length
  filesProcessed :
    result.filesProcessed + harvests.countP Harvest.failed = result.filesScanned
  errors : result.errors = harvests.countP Harvest.failed +
    (harvests.flatMap Harvest.scopes).countP matcher.fails
  scopesExamined : result.scopesExamined = (harvests.flatMap Harvest.scopes).length
  namesHarvested : result.namesHarvested =
    ((harvests.flatMap Harvest.scopes).map (·.toCollection.ownNames)).sum
  matchesFound : result.matchesFound = (result.reports.map (·.matched.length)).sum
  reports : result.reports = (harvests.flatMap Harvest.scopes).filterMap matcher.report?
  /-- Every examined scope is reported, has failed, or has no matches. -/
  scopesMeetOneEnd : result.scopesExamined = result.reports.length +
    (harvests.flatMap Harvest.scopes).countP matcher.fails +
    (harvests.flatMap Harvest.scopes).countP matcher.findsNothing

theorem CheckResult.balances_ofHarvests (threshold : Number) (matcher : ScopeMatcher)
    (harvests : List Harvest) :
    (ofHarvests threshold matcher harvests).Balances harvests matcher where
  filesScanned := rfl
  filesProcessed := by
    have split := harvests.length_eq_countP_add_countP Harvest.failed
    simp only [ofHarvests, Bool.not_eq_true, Bool.decide_eq_false] at split ⊢
    omega
  errors := rfl
  scopesExamined := rfl
  namesHarvested := rfl
  matchesFound := rfl
  reports := rfl
  scopesMeetOneEnd := matcher.length_eq_add_countP _

/-! ### Checks -/

theorem Threshold.isExceededBy_of_failingOn {threshold : Threshold}
    {fails : HarvestedScope → Option MatchError} {scope : HarvestedScope} {matched : List Match}
    (succeeds : (threshold.matcher []).failingOn fails scope = .ok matched) :
    ∀ found ∈ matched, threshold.isExceededBy found.score = true := by
  intro found mem
  cases injected : fails scope with
  | some error => simp [ScopeMatcher.failingOn, injected] at succeeds
  | none =>
      simp only [ScopeMatcher.failingOn, injected, threshold.matcher_eq_ok] at succeeds
      cases succeeds
      exact isExceededBy_of_mem_matchesInFull mem

/-- The books of every run balance, in whatever order harvests are completed and whichever
scopes fail.  The names counted are those that scopes bind themselves, and all matches
reported lie above the threshold.  Every examined scope meets with just one of three ends: it
is reported, it has failed, or it has no matches.  A check itself is such a run and ends with
these books, unless its workers cannot be told or started. -/
theorem books_balance {tree : FileTree} {config : Config} {paths : List Path} {check : Check}
    (prepared : Check.prepare tree config paths = .ok check)
    {completed : List (Path × Harvest)}
    (everyFileOnce : completed.Perm ((check.collect tree).files.map fun file =>
      (file, harvestFile config.propagateNested tree file)))
    (fails : HarvestedScope → Option MatchError) :
    let harvests := (check.collect tree).files.map (harvestFile config.propagateNested tree)
    let matcher := (check.threshold.matcher []).failingOn fails
    let result :=
      (Run.through config.thresholdNumber matcher (check.collect tree).files completed).result
    result.Balances harvests matcher ∧
      harvests.flatMap Harvest.scopes =
        (check.sources tree).map (SourceScope.harvested config.propagateNested) ∧
      result.namesHarvested =
        ((check.sources tree).map fun source => (source.bindings false).length).sum ∧
      (∃ limit, result.threshold.toFloat? = some limit ∧
        ∀ report ∈ result.reports, report.matched ≠ [] ∧
          ∀ found ∈ report.matched, limit.lt found.score = true) ∧
      (∀ scope, matcher.fails scope = (fails scope).isSome ∧
        [(matcher.report? scope).isSome, matcher.fails scope, matcher.findsNothing scope].count
          true = 1) ∧
      ∀ failing, fails = injectedFailures failing →
        (check.run tree failing).map Finished.result = check.ending tree result := by
  intro harvests matcher result
  obtain ⟨threshold, valid, -, checkEq⟩ := Check.prepare_eq_ok_iff.mp prepared
  have thresholdEq : check.threshold = threshold := congrArg Check.threshold checkEq
  have configEq : check.config = config := congrArg Check.config checkEq
  have resultEq : result = .ofHarvests config.thresholdNumber matcher harvests :=
    result_through_eq_ofHarvests _ matcher (check.nodup_collect tree) everyFileOnce
  have scopesEq : harvests.flatMap Harvest.scopes = _ :=
    check.flatMap_scopes_harvestFile tree config.propagateNested
  have books := CheckResult.balances_ofHarvests config.thresholdNumber matcher harvests
  rw [← resultEq] at books
  refine ⟨books, scopesEq, ?_, ⟨threshold.number, ?_, ?_⟩, fun scope => ⟨?_, ?_⟩, ?_⟩
  · rw [books.namesHarvested, scopesEq, SourceScope.map_ownNames_harvested]
  · rw [resultEq]
    exact config.toFloat?_thresholdNumber valid
  · intro report mem
    rw [books.reports] at mem
    obtain ⟨scope, -, reported⟩ := List.mem_filterMap.mp mem
    obtain ⟨succeeds, nonempty⟩ := ScopeMatcher.eq_ok_of_report?_eq_some reported
    rw [← thresholdEq]
    exact ⟨nonempty, Threshold.isExceededBy_of_failingOn succeeds⟩
  · exact ScopeMatcher.fails_failingOn fails (check.threshold.fails_matcher scope)
  · exact matcher.count_ends_eq_one scope
  · rintro failing rfl
    rw [check.map_result_run, Check.result, resultEq, configEq,
      check.threshold.matcher_eq_failingOn failing]

/-- The file that cannot be harvested is completed last, and a function of the other one cannot
be matched. -/
theorem books_balance_of_pair :
    let harvests := (pairCheck.collect pairTree).files.map fun file =>
      (file, harvestFile false pairTree file)
    let matcher := (pairCheck.threshold.matcher []).failingOn (injectedFailures ["f"])
    let result := (Run.through pairCheck.config.thresholdNumber matcher
      (pairCheck.collect pairTree).files harvests.reverse).result
    Check.prepare pairTree {} pairCheck.paths = .ok pairCheck ∧
      harvests.reverse.Perm harvests ∧
      result.filesScanned = 2 ∧ result.scopesExamined = 3 ∧ result.namesHarvested = 3 ∧
      (pairCheck.run pairTree ["f"]).map Finished.result = .ok result := by
  intro harvests matcher result
  have everyFileOnce : harvests.reverse.Perm harvests := List.reverse_perm harvests
  obtain ⟨books, scopesEq, namesEq, -, -, resultEq⟩ :=
    books_balance prepare_pairCheck everyFileOnce (injectedFailures ["f"])
  refine ⟨prepare_pairCheck, everyFileOnce, books.filesScanned.trans ?_,
    books.scopesExamined.trans ?_, namesEq.trans ?_,
    (resultEq ["f"] rfl).trans (Check.ending_of_default rfl pairTree result)⟩
  · rw [files_pairCheck]
    rfl
  · have lengthEq := congrArg List.length map_length_bindings_pairCheck
    rw [List.length_map] at lengthEq
    rw [scopesEq, List.length_map, lengthEq]
    rfl
  · rw [map_length_bindings_pairCheck]
    rfl

end Lookalike
