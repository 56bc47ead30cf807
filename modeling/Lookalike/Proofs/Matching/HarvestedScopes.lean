import Lookalike.Check
import Lookalike.Proofs.Matching.Pruning

/-!
# Matching harvested scopes

All names that are harvested have texts, so a harvested scope can always be matched, unless
it is made to fail.  Its matches are those that a search without pruning finds.  They are
the more, the more names there are: with names left out, the remaining matches stay in
order, with the same scores and the same evidence.
-/

namespace Lookalike

theorem pairs_sublist {Member : Type} {members members' : List Member}
    (sublist : members.Sublist members') : (pairs members).Sublist (pairs members') := by
  induction sublist with
  | slnil => exact List.Sublist.refl _
  | cons member _ ih =>
      rw [pairs]
      exact ih.trans (List.sublist_append_right _ _)
  | cons_cons member sublist ih =>
      rw [pairs, pairs]
      exact (sublist.map _).append ih

section

variable {threshold : Threshold} {names names' : List Name}

theorem matchesInFull_eq_filterMap_pairs (threshold : Threshold) (names : List Name) :
    matchesInFull threshold names =
      (pairs names).filterMap fun pair => compareInFull? threshold pair.1 pair.2 := by
  rw [pairs_eq_map_indexPairs, List.filterMap_map]
  rfl

theorem compareInFull?_eq (threshold : Threshold) (first second : Name) :
    compareInFull? threshold first second =
      if threshold.isExceededBy (score first.display second.display) then
        some
          { first := first
            second := second
            score := score first.display second.display
            evidence := commonSubsequence first.display second.display }
      else none := rfl

/-- With more names there are more matches, and the ones there were stay as they are. -/
theorem matchesInFull_sublist (sublist : names.Sublist names') :
    (matchesInFull threshold names).Sublist (matchesInFull threshold names') := by
  rw [matchesInFull_eq_filterMap_pairs, matchesInFull_eq_filterMap_pairs]
  exact (pairs_sublist sublist).filterMap _

theorem isExceededBy_of_mem_matchesInFull {found : Match}
    (mem : found ∈ matchesInFull threshold names) :
    threshold.isExceededBy found.score = true := by
  obtain ⟨pair, -, foundEq⟩ := List.mem_filterMap.mp mem
  simp only [compareInFull?] at foundEq
  split_ifs at foundEq with exceeds
  cases foundEq
  exact exceeds

theorem map_found_matchNames (threshold : Threshold)
    (lettered : ∀ name ∈ names, name.IsLettered) :
    (matchNames threshold names).map Matching.found = .ok (matchesInFull threshold names) := by
  have judged : (pairs names).mapM (judge threshold) = .ok ((pairs names).map fun pair =>
      judgeTexts threshold pair.1 pair.2 pair.1.display pair.2.display) := by
    apply mapM_eq_ok_map
    intro pair mem
    obtain ⟨firstMem, secondMem⟩ := mem_of_mem_pairs mem
    exact judge_eq_ok (lettered pair.1 firstMem) (lettered pair.2 secondMem)
  rw [matchNames, judged, matchesInFull_eq_filterMap_pairs]
  simp [Except.map, Matching.found, List.filterMap_map, match?_judgeTexts, bind, Except.bind,
    pure, Except.pure]

theorem exists_matchNames_eq_ok (threshold : Threshold)
    (lettered : ∀ name ∈ names, name.IsLettered) :
    ∃ matching, matchNames threshold names = .ok matching ∧
      matching.found = matchesInFull threshold names := by
  have foundEq := map_found_matchNames threshold lettered
  cases matched : matchNames threshold names with
  | error fault =>
      rw [matched] at foundEq
      cases foundEq
  | ok matching =>
      rw [matched] at foundEq
      exact ⟨matching, rfl, Except.ok.inj foundEq⟩

end

/-! ### Harvested scopes -/

theorem HarvestedScope.isLettered_of_mem_names {scope : HarvestedScope} {name : Name}
    (mem : name ∈ scope.toCollection.names) : name.IsLettered := by
  obtain ⟨binding, -, rfl⟩ := List.mem_map.mp mem
  exact ⟨binding.text, rfl⟩

/-- The matches of a harvested scope. -/
def HarvestedScope.matched (threshold : Threshold) (scope : HarvestedScope) : List Match :=
  matchesInFull threshold scope.toCollection.names

/-- Matching a harvested scope succeeds, unless the scope is made to fail. -/
theorem Threshold.matcher_eq_ok (threshold : Threshold) (scope : HarvestedScope) :
    threshold.matcher [] scope = .ok (scope.matched threshold) := by
  have lettered : ∀ name ∈ scope.toCollection.names, name.IsLettered :=
    fun _ mem => HarvestedScope.isLettered_of_mem_names mem
  obtain ⟨matching, matched, foundEq⟩ := exists_matchNames_eq_ok threshold lettered
  simp [matcher, matchCollection, matched, Except.mapError, Except.map, foundEq,
    HarvestedScope.matched]

end Lookalike
