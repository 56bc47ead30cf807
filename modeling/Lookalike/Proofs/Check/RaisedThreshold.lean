import Lookalike.Proofs.Check.Propagation

/-!
# Raising the threshold only filters

A match has a score above the threshold, whatever the threshold is, and pruning takes no match
away.  So a higher threshold leaves of the matches of a scope those whose scores it does not
reach, as they are, and of the reports those that still have matches.  Nothing else in the
result of a check depends on the threshold.
-/

namespace Lookalike

/-! ### Scores above a threshold -/

namespace Threshold

variable {low high : Threshold} {score : Binary64}

theorem isExceededBy_iff {threshold : Threshold} :
    threshold.isExceededBy score = true ↔
      ∃ place ∈ score.extended, Binary64.placeOf threshold.value < place := by
  rw [isExceededBy, Binary64.lt_iff]
  simp [number, Binary64.extended]

theorem isExceededBy_of_le (raised : low.value ≤ high.value)
    (exceeds : high.isExceededBy score = true) : low.isExceededBy score = true := by
  rw [isExceededBy_iff] at exceeds ⊢
  obtain ⟨place, placeMem, lt⟩ := exceeds
  refine ⟨place, placeMem, lt_of_le_of_lt ?_ lt⟩
  rw [← not_lt, Binary64.placeOf_lt_placeOf, not_lt]
  exact raised

/-- A score that compares at all is either above a threshold or at most as high. -/
theorem isExceededBy_eq_not_le (high : Threshold) (exceeds : low.isExceededBy score = true) :
    high.isExceededBy score = !score.le high.number := by
  obtain ⟨place, placeMem, -⟩ := isExceededBy_iff.mp exceeds
  rw [Bool.eq_iff_iff, isExceededBy_iff, Bool.not_eq_true', ← Bool.not_eq_true, Binary64.le_iff]
  constructor
  · rintro ⟨place', placeMem', lt⟩ ⟨place'', placeMem'', limit, limitMem, le⟩
    obtain rfl := Option.mem_unique placeMem' placeMem''
    obtain rfl := Option.mem_some.mp limitMem
    exact absurd lt (not_lt.mpr le)
  · intro notLe
    refine ⟨place, placeMem, lt_of_not_ge fun le => notLe ?_⟩
    exact ⟨place, placeMem, _, rfl, le⟩

end Threshold

/-! ### Matches and reports that stay -/

/-- Whether a match has a score above a threshold. -/
def Match.isAbove (threshold : Threshold) (found : Match) : Bool :=
  !found.score.le threshold.number

/-- What is left of a report when matches of scores up to a threshold are removed; nothing if
no match is left. -/
def ScopeReport.above? (threshold : Threshold) (report : ScopeReport) : Option ScopeReport :=
  let matched := report.matched.filter (Match.isAbove threshold)
  if matched.isEmpty then none else some { report with matched := matched }

section

variable {low high : Threshold}

/-- The matches at a higher threshold are those at the lower one that are above it. -/
theorem matchesInFull_eq_filter (raised : low.value ≤ high.value) (names : List Name) :
    matchesInFull high names = (matchesInFull low names).filter (Match.isAbove high) := by
  rw [matchesInFull_eq_filterMap_pairs, matchesInFull_eq_filterMap_pairs, List.filter_filterMap]
  apply List.filterMap_congr
  intro pair _
  rw [compareInFull?_eq, compareInFull?_eq]
  -- A score that compares with no number is not at most the higher threshold either.  It is
  -- ruled out by the lower one.
  by_cases aboveLow : low.isExceededBy (score pair.1.display pair.2.display) = true
  · have aboveHigh := Threshold.isExceededBy_eq_not_le high aboveLow
    rw [if_pos aboveLow, Option.filter, Match.isAbove, ← aboveHigh]
  · have notAboveHigh : ¬high.isExceededBy (score pair.1.display pair.2.display) = true :=
      fun aboveHigh => aboveLow (Threshold.isExceededBy_of_le raised aboveHigh)
    simp [aboveLow, notAboveHigh]

theorem HarvestedScope.matched_eq_filter (raised : low.value ≤ high.value)
    (scope : HarvestedScope) :
    scope.matched high = (scope.matched low).filter (Match.isAbove high) :=
  matchesInFull_eq_filter raised scope.toCollection.names

/-- The report on a scope at a higher threshold is what is left of the one at the lower. -/
theorem report?_matcher_eq_bind (raised : low.value ≤ high.value) (failing : List String)
    (scope : HarvestedScope) :
    (high.matcher failing).report? scope =
      ((low.matcher failing).report? scope).bind (ScopeReport.above? high) := by
  rw [high.matcher_eq_failingOn, low.matcher_eq_failingOn, ScopeMatcher.report?_failingOn,
    ScopeMatcher.report?_failingOn]
  cases injected : injectedFailures failing scope with
  | some error => rfl
  | none =>
      rw [Option.isNone_none, if_pos rfl, if_pos rfl, high.report?_matcher, low.report?_matcher,
        scope.matched_eq_filter raised]
      cases nothing : (scope.matched low).isEmpty with
      | true => simp [List.isEmpty_iff.mp nothing]
      | false => rfl

theorem fails_matcher_eq (failing : List String) (scope : HarvestedScope) :
    (high.matcher failing).fails scope = (low.matcher failing).fails scope := by
  rw [high.matcher_eq_failingOn, low.matcher_eq_failingOn,
    ScopeMatcher.fails_failingOn _ (high.fails_matcher scope),
    ScopeMatcher.fails_failingOn _ (low.fails_matcher scope)]

theorem sum_length_filterMap_above? (threshold : Threshold) (reports : List ScopeReport) :
    ((reports.filterMap (ScopeReport.above? threshold)).map (·.matched.length)).sum =
      (reports.flatMap (·.matched)).countP (Match.isAbove threshold) := by
  induction reports with
  | nil => rfl
  | cons report later ih =>
      rw [List.filterMap_cons, List.flatMap_cons, List.countP_append, ← ih,
        List.countP_eq_length_filter]
      cases nothing : (report.matched.filter (Match.isAbove threshold)).isEmpty with
      | true => simp [ScopeReport.above?, List.isEmpty_iff.mp nothing]
      | false => simp [ScopeReport.above?, nothing]

/-- What harvests come to at a higher threshold is what they come to at the lower one, with
matches removed and reports that are left without any. -/
theorem ofHarvests_raised (raised : low.value ≤ high.value) (threshold threshold' : Number)
    (failing : List String) (harvests : List Harvest) :
    let result := CheckResult.ofHarvests threshold (low.matcher failing) harvests
    CheckResult.ofHarvests threshold' (high.matcher failing) harvests =
      { result with
        matchesFound := (result.reports.flatMap (·.matched)).countP (Match.isAbove high)
        threshold := threshold'
        reports := result.reports.filterMap (ScopeReport.above? high) } := by
  have reportsEq : (harvests.flatMap Harvest.scopes).filterMap (high.matcher failing).report? =
      ((harvests.flatMap Harvest.scopes).filterMap (low.matcher failing).report?).filterMap
        (ScopeReport.above? high) := by
    rw [List.filterMap_filterMap]
    apply List.filterMap_congr
    intro scope _
    exact report?_matcher_eq_bind raised failing scope
  have failuresEq : (high.matcher failing).fails = (low.matcher failing).fails := by
    funext scope
    exact fails_matcher_eq failing scope
  simp only [CheckResult.ofHarvests, reportsEq, failuresEq, sum_length_filterMap_above?]

end

/-! ### Checks -/

namespace Check

variable {tree : FileTree} {config : Config} {paths : List Path} {check check' : Check}

theorem result_raised {high : Json}
    (configEq : check'.config = { check.config with threshold := high })
    (pathsEq : check'.paths = check.paths)
    (raised : check.threshold.value ≤ check'.threshold.value) (tree : FileTree)
    (failing : List String) :
    let result := check.result tree failing
    check'.result tree failing =
      { result with
        matchesFound := (result.reports.flatMap (·.matched)).countP
          (Match.isAbove check'.threshold)
        threshold := check'.config.thresholdNumber
        reports := result.reports.filterMap (ScopeReport.above? check'.threshold) } := by
  have filesEq : check'.collect tree = check.collect tree := by
    rw [collect, collect, configEq, pathsEq]
    rfl
  have propagatesEq : check'.config.propagateNested = check.config.propagateNested := by
    rw [configEq]
  rw [result, result, filesEq, propagatesEq]
  exact ofHarvests_raised raised _ _ failing _

theorem toFloat?_threshold_result (prepared : prepare tree config paths = .ok check)
    (failing : List String) :
    (check.result tree failing).threshold.toFloat? = some check.threshold.number := by
  obtain ⟨threshold, valid, -, rfl⟩ := prepare_eq_ok_iff.mp prepared
  exact Config.toFloat?_thresholdNumber valid

end Check

/-- A check with another threshold that is not lower goes through the same files, scopes and
names, meets with the same errors, and reports what is left of the reports when matches of
scores up to the threshold are removed, in the same order and with the same evidence.  Both
checks end with their results, or both with the same error, which only the number of workers can
cause. -/
theorem raising_threshold_only_filters {tree : FileTree} {config : Config} {paths : List Path}
    {low high : Json} {check check' : Check}
    (prepared : Check.prepare tree { config with threshold := low } paths = .ok check)
    (prepared' : Check.prepare tree { config with threshold := high } paths = .ok check')
    (raised : check.threshold.value ≤ check'.threshold.value) (failing : List String) :
    let result := check.result tree failing
    let result' := check'.result tree failing
    ((check.run tree failing).map Finished.result = check.ending tree result ∧
        (check'.run tree failing).map Finished.result = check.ending tree result') ∧
      (result.threshold.toFloat? = some check.threshold.number ∧
        result'.threshold.toFloat? = some check'.threshold.number) ∧
      (result'.filesScanned = result.filesScanned ∧
        result'.filesProcessed = result.filesProcessed ∧
        result'.scopesExamined = result.scopesExamined ∧
        result'.namesHarvested = result.namesHarvested ∧ result'.errors = result.errors) ∧
      result'.reports = result.reports.filterMap (ScopeReport.above? check'.threshold) ∧
      result'.matchesFound =
        (result.reports.flatMap (·.matched)).countP (Match.isAbove check'.threshold) := by
  intro result result'
  have given : result.threshold.toFloat? = _ := Check.toFloat?_threshold_result prepared failing
  have given' : result'.threshold.toFloat? = _ := Check.toFloat?_threshold_result prepared' failing
  obtain ⟨threshold, -, -, checkEq⟩ := Check.prepare_eq_ok_iff.mp prepared
  obtain ⟨threshold', -, -, checkEq'⟩ := Check.prepare_eq_ok_iff.mp prepared'
  have configEq : check'.config = { check.config with threshold := high } := by
    rw [checkEq, checkEq']
  have pathsEq : check'.paths = check.paths := by
    rw [checkEq, checkEq']
  have resultEq : result' = _ := Check.result_raised configEq pathsEq raised tree failing
  have endingEq : check'.ending tree result' = check.ending tree result' := by
    rw [Check.ending, Check.ending, Check.collect, Check.collect, configEq, pathsEq]
    rfl
  refine ⟨⟨check.map_result_run tree failing,
    (check'.map_result_run tree failing).trans endingEq⟩, ⟨given, given'⟩, ?_, ?_, ?_⟩
  · rw [resultEq]
    exact ⟨rfl, rfl, rfl, rfl, rfl⟩
  · rw [resultEq]
  · rw [resultEq]

/-! ### Three names -/

/-- A function with three parameters, whose names have three different scores. -/
def gradedSource : String := "def f(name, names, nam): 0\n"

def gradedTree : FileTree :=
  { root := .folder [("a.py", .file gradedSource.toUTF8)] }

def gradedCheck (threshold : Threshold) : Check :=
  { config := { threshold := .float threshold.number }
    threshold := threshold
    paths := [{ names := ["a.py"] }] }

def oneHalf : Threshold := ⟨1 / 2, by norm_num, by norm_num⟩

def threeQuarters : Threshold := pairCheck.threshold

theorem find_gradedTree :
    gradedTree.find { names := ["a.py"] } = .ok (.file gradedSource.toUTF8) :=
  FileTree.find_of_at? rfl nofun (by decide)

theorem files_gradedCheck (threshold : Threshold) :
    ((gradedCheck threshold).collect gradedTree).files = [{ names := ["a.py"] }] := by
  have found : ∀ path ∈ (gradedCheck threshold).paths,
      ∃ content, gradedTree.find path = .ok (.file content) :=
    List.forall_mem_singleton.mpr ⟨_, find_gradedTree⟩
  rw [Check.files_collect_eq_keepFirst, Check.filesOf_of_find _ found, Check.keepFirst_eq]
  rfl

theorem prepare_gradedCheck (threshold : Threshold) :
    Check.prepare gradedTree { threshold := .float threshold.number } [{ names := ["a.py"] }] =
      .ok (gradedCheck threshold) := by
  refine Check.prepare_eq_ok_iff.mpr ⟨threshold, Config.validate_float threshold,
    List.forall_mem_singleton.mpr ?_, rfl⟩
  exact FileTree.exists?_of_find find_gradedTree

theorem fileScopes_gradedTree :
    fileScopes gradedTree { names := ["a.py"] } = sourceScopes gradedSource "a.py" :=
  fileScopes_of_find find_gradedTree rfl

/-- What is harvested of the function and of its module. -/
def gradedScopes : List HarvestedScope :=
  let argument (text : String) (column : Nat) : Binding :=
    ⟨text, "a.py", 1, column, "argument", "a.f"⟩
  [{ place := ⟨"a.py", "function", "f", "a.f", 1⟩
     bindings := [argument "name" 6, argument "names" 12, argument "nam" 19] },
    { place := ⟨"a.py", "module", "a", "a", 1⟩
      bindings := [⟨"f", "a.py", 1, 0, "function", "a"⟩] }]

theorem map_harvested_gradedCheck (threshold : Threshold) :
    ((gradedCheck threshold).sources gradedTree).map (SourceScope.harvested false) =
      gradedScopes := by
  rw [Check.sources, files_gradedCheck, List.flatMap_singleton, fileScopes_gradedTree]
  decide +kernel

theorem matchesFound_gradedCheck (threshold : Threshold) :
    ((gradedCheck threshold).result gradedTree []).matchesFound =
      (gradedScopes.map fun scope => (scope.matched threshold).length).sum := by
  rw [Check.matchesFound_result, ← map_harvested_gradedCheck threshold, List.map_map]
  rfl

/-- Of three scores, one lies below the higher threshold and one just at it. -/
theorem raising_threshold_only_filters_of_graded :
    let result := (gradedCheck oneHalf).result gradedTree []
    let result' := (gradedCheck threeQuarters).result gradedTree []
    Check.prepare gradedTree { ({} : Config) with threshold := .float oneHalf.number }
        (gradedCheck oneHalf).paths = .ok (gradedCheck oneHalf) ∧
      Check.prepare gradedTree { ({} : Config) with threshold := .float threeQuarters.number }
        (gradedCheck oneHalf).paths = .ok (gradedCheck threeQuarters) ∧
      oneHalf.value ≤ threeQuarters.value ∧
      ((gradedCheck oneHalf).run gradedTree []).map Finished.result = .ok result ∧
      ((gradedCheck threeQuarters).run gradedTree []).map Finished.result = .ok result' ∧
      result'.reports = result.reports.filterMap (ScopeReport.above? threeQuarters) ∧
      result.matchesFound = 3 ∧ result'.matchesFound = 1 := by
  intro result result'
  have prepared : Check.prepare gradedTree { ({} : Config) with threshold := .float oneHalf.number }
      (gradedCheck oneHalf).paths = .ok (gradedCheck oneHalf) :=
    prepare_gradedCheck oneHalf
  have prepared' :
      Check.prepare gradedTree { ({} : Config) with threshold := .float threeQuarters.number }
        (gradedCheck oneHalf).paths = .ok (gradedCheck threeQuarters) :=
    prepare_gradedCheck threeQuarters
  have raised : oneHalf.value ≤ threeQuarters.value := by
    norm_num [oneHalf, threeQuarters, pairCheck]
  obtain ⟨⟨ends, ends'⟩, -, -, reportsEq, -⟩ :=
    raising_threshold_only_filters prepared prepared' raised []
  have finished (result : CheckResult) :
      (gradedCheck oneHalf).ending gradedTree result = .ok result :=
    Check.ending_of_default rfl gradedTree result
  refine ⟨prepared, prepared', raised, ends.trans (finished result),
    ends'.trans (finished result'), reportsEq, ?_, ?_⟩
  · rw [matchesFound_gradedCheck]
    decide +kernel
  · rw [matchesFound_gradedCheck]
    decide +kernel

end Lookalike
