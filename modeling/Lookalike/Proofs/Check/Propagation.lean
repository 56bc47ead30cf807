import Lookalike.Proofs.Check.Failures
import Lookalike.Proofs.Check.Preparation
import Mathlib.Algebra.Order.BigOperators.Group.List

/-!
# Propagation only adds matches

A check is compared with itself when inner scopes hand on their names.  Both go through the
same files and the same scopes and count the same names, since a collection counts only
what its scope binds itself.  The names of a scope are among those that it has when names
are handed on, in the same order, so that its matches are among the others, too.
-/

namespace Lookalike

/-! ### Matches of a scope -/

section

variable (threshold : Threshold) (scopes : List HarvestedScope)

theorem SourceScope.bindings_sublist (source : SourceScope) :
    (source.bindings false).Sublist (source.bindings true) :=
  recorded_sublist_gathered source.place [] source.course

/-- A scope keeps its matches when inner scopes hand on their names. -/
theorem SourceScope.matched_sublist (source : SourceScope) :
    ((source.harvested false).matched threshold).Sublist
      ((source.harvested true).matched threshold) :=
  matchesInFull_sublist (source.bindings_sublist.map Binding.toName)

theorem map_length_matched_pairCheck (propagates : Bool) :
    (pairCheck.sources pairTree).map (fun source =>
      ((source.harvested propagates).matched pairCheck.threshold).length) =
        if propagates then [0, 1, 1] else [0, 0, 0] := by
  rw [sources_pairCheck]
  cases propagates <;> decide +kernel

theorem Threshold.report?_matcher (scope : HarvestedScope) :
    (threshold.matcher []).report? scope =
      if (scope.matched threshold).isEmpty then none
      else some { scope := .scope scope.place, matched := scope.matched threshold } := by
  rw [ScopeMatcher.report?, threshold.matcher_eq_ok]
  cases scope.matched threshold <;> rfl

theorem map_scope_filterMap_report? :
    (scopes.filterMap (threshold.matcher []).report?).map (·.scope) =
      (scopes.filter fun scope => !(scope.matched threshold).isEmpty).map (.scope ·.place) := by
  induction scopes with
  | nil => rfl
  | cons scope later ih =>
      rw [List.filterMap_cons, threshold.report?_matcher]
      cases nothing : (scope.matched threshold).isEmpty <;> simp [nothing, ih]

theorem sum_length_filterMap_report? :
    ((scopes.filterMap (threshold.matcher []).report?).map (·.matched.length)).sum =
      (scopes.map fun scope => (scope.matched threshold).length).sum := by
  induction scopes with
  | nil => rfl
  | cons scope later ih =>
      rw [List.filterMap_cons, threshold.report?_matcher]
      cases nothing : (scope.matched threshold).isEmpty with
      | true => simp [ih, List.isEmpty_iff.mp nothing]
      | false => simp [ih]

/-- The reports on the scopes of sources. -/
def reportsOf (threshold : Threshold) (sources : List SourceScope) (propagates : Bool) :
    List ScopeReport :=
  (sources.map (SourceScope.harvested propagates)).filterMap (threshold.matcher []).report?

/-- Scopes that are reported are still reported when inner scopes hand on their names. -/
theorem map_scope_reportsOf_sublist (sources : List SourceScope) :
    ((reportsOf threshold sources false).map (·.scope)).Sublist
      ((reportsOf threshold sources true).map (·.scope)) := by
  rw [reportsOf, reportsOf, map_scope_filterMap_report?, map_scope_filterMap_report?,
    List.filter_map, List.filter_map, List.map_map, List.map_map]
  refine (List.monotone_filter_right sources fun source hasMatches => ?_).map _
  simp only [Function.comp_apply, Bool.not_eq_true', List.isEmpty_eq_false_iff] at hasMatches ⊢
  intro noMatches
  have sublist := source.matched_sublist threshold
  rw [noMatches, List.sublist_nil] at sublist
  exact hasMatches sublist

theorem sum_length_reportsOf_le (sources : List SourceScope) :
    ((reportsOf threshold sources false).map (·.matched.length)).sum ≤
      ((reportsOf threshold sources true).map (·.matched.length)).sum := by
  rw [reportsOf, reportsOf, sum_length_filterMap_report?, sum_length_filterMap_report?,
    List.map_map, List.map_map]
  exact List.sum_le_sum fun source _ => (source.matched_sublist threshold).length_le

end

/-! ### Checks -/

namespace Check

variable {tree : FileTree} {config : Config} {paths : List Path} {check : Check}

/-- A check with inner scopes made to hand on their names, or not to. -/
def propagating (check : Check) (propagates : Bool) : Check :=
  { check with config := { check.config with propagateNested := propagates } }

theorem prepare_propagating (prepared : prepare tree config paths = .ok check)
    (propagates : Bool) :
    prepare tree { config with propagateNested := propagates } paths =
      .ok (check.propagating propagates) := by
  obtain ⟨threshold, valid, allExist, rfl⟩ := prepare_eq_ok_iff.mp prepared
  exact prepare_eq_ok_iff.mpr ⟨threshold, valid, allExist, rfl⟩

theorem matchesFound_result (check : Check) (tree : FileTree) :
    (check.result tree []).matchesFound =
      ((check.sources tree).map fun source =>
        ((source.harvested check.config.propagateNested).matched check.threshold).length).sum := by
  rw [result, check.ofHarvests_harvestFile]
  refine (sum_length_filterMap_report? check.threshold _).trans ?_
  rw [List.map_map]
  rfl

end Check

theorem matchesFound_pairCheck (propagates : Bool) :
    ((pairCheck.propagating propagates).result pairTree []).matchesFound =
      if propagates then 2 else 0 := by
  have lengthsEq := map_length_matched_pairCheck propagates
  rw [Check.matchesFound_result]
  refine (congrArg List.sum lengthsEq).trans ?_
  cases propagates <;> rfl

/-- A check and the same check with names handed on are both prepared when one of them is, and
both end with their results or both with the same error, which only the number of workers can
cause.  They agree in all numbers but that of matches, and every scope that one of them examines
has all matches in the other that it has in the one, and perhaps more.  So names that are handed
on add scopes to the reports and matches to the scopes, and take none away. -/
theorem propagation_only_adds_matches {tree : FileTree} {config : Config} {paths : List Path}
    {check : Check} (prepared : Check.prepare tree config paths = .ok check) :
    let result := fun propagates => (check.propagating propagates).result tree []
    let flat := result false
    let nested := result true
    let matcher := check.threshold.matcher []
    (∀ propagates,
        Check.prepare tree { config with propagateNested := propagates } paths =
            .ok (check.propagating propagates) ∧
          ((check.propagating propagates).run tree []).map Finished.result =
            check.ending tree (result propagates)) ∧
      (flat.filesScanned = nested.filesScanned ∧ flat.filesProcessed = nested.filesProcessed ∧
        flat.scopesExamined = nested.scopesExamined ∧
        flat.namesHarvested = nested.namesHarvested ∧ flat.errors = nested.errors) ∧
      (∀ propagates,
        let harvests := (check.collect tree).files.map (harvestFile propagates tree)
        let scopes := (check.sources tree).map (SourceScope.harvested propagates)
        harvests.flatMap Harvest.scopes = scopes ∧
          (result propagates).reports = scopes.filterMap matcher.report?) ∧
      (∀ source : SourceScope, ∃ flatMatches nestedMatches,
        matcher (source.harvested false) = .ok flatMatches ∧
          matcher (source.harvested true) = .ok nestedMatches ∧
          flatMatches.Sublist nestedMatches) ∧
      (∀ source : SourceScope, (source.harvested true).toCollection.ownNames =
        (source.harvested false).toCollection.names.length) ∧
      (flat.reports.map (·.scope)).Sublist (nested.reports.map (·.scope)) ∧
      flat.matchesFound ≤ nested.matchesFound := by
  intro result flat nested matcher
  have resultEq (propagates : Bool) : result propagates = _ :=
    check.ofHarvests_harvestFile tree _ matcher propagates
  have flatEq : flat = _ := resultEq false
  have nestedEq : nested = _ := resultEq true
  have noFailure (scopes : List HarvestedScope) : scopes.countP matcher.fails = 0 :=
    check.threshold.countP_fails_matcher scopes
  refine ⟨fun propagates => ⟨Check.prepare_propagating prepared propagates,
      (check.propagating propagates).map_result_run tree []⟩, ?_, fun propagates => ⟨?_, ?_⟩,
    fun source => ?_, fun source => ?_, ?_, ?_⟩
  · simp only [flatEq, nestedEq, noFailure, and_self]
  · exact check.flatMap_scopes_harvestFile tree propagates
  · rw [resultEq]
  · exact ⟨_, _, check.threshold.matcher_eq_ok _, check.threshold.matcher_eq_ok _,
      source.matched_sublist check.threshold⟩
  · rw [source.ownNames_harvested]
    simp [HarvestedScope.toCollection, SourceScope.harvested]
  · rw [flatEq, nestedEq]
    exact map_scope_reportsOf_sublist check.threshold (check.sources tree)
  · rw [flatEq, nestedEq]
    exact sum_length_reportsOf_le check.threshold (check.sources tree)

/-- Without propagation nothing is reported; with it, a function and its module are. -/
theorem propagation_only_adds_matches_of_pair :
    let flat := (pairCheck.propagating false).result pairTree []
    let nested := (pairCheck.propagating true).result pairTree []
    Check.prepare pairTree {} pairCheck.paths = .ok pairCheck ∧
      ((pairCheck.propagating false).run pairTree []).map Finished.result = .ok flat ∧
      ((pairCheck.propagating true).run pairTree []).map Finished.result = .ok nested ∧
      flat.namesHarvested = nested.namesHarvested ∧ flat.errors = nested.errors ∧
      (flat.reports.map (·.scope)).Sublist (nested.reports.map (·.scope)) ∧
      flat.matchesFound ≤ nested.matchesFound ∧ flat.matchesFound = 0 ∧
      nested.matchesFound = 2 := by
  intro flat nested
  obtain ⟨ends, ⟨-, -, -, namesEq, errorsEq⟩, -, -, -, reportsSublist, fewerMatches⟩ :=
    propagation_only_adds_matches prepare_pairCheck
  have finished (result : CheckResult) : pairCheck.ending pairTree result = .ok result :=
    Check.ending_of_default rfl pairTree result
  exact ⟨prepare_pairCheck, (ends false).2.trans (finished flat),
    (ends true).2.trans (finished nested), namesEq, errorsEq, reportsSublist, fewerMatches,
    matchesFound_pairCheck false, matchesFound_pairCheck true⟩

end Lookalike
