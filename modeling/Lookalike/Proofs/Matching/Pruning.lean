import Lookalike.Proofs.Matching.Pairs
import Lookalike.Proofs.Similarity.LengthTest

/-!
# Matching with and without pruning

`matchNames` prunes pairs by their lengths before it scores them.  A search without any
pruning compares every pair in full, as two texts are compared by themselves, and keeps
the pairs whose comparison exceeds the threshold.  Both find the same matches: the same
names, in the same order, with the same scores and the same evidence.
-/

namespace Lookalike

/-! ### Names with texts -/

/-- Whether the text of a name is a text, rather than a value without a length. -/
def Name.IsLettered (name : Name) : Prop :=
  ∃ text, name.text = .letters text

theorem Name.IsLettered.measured_eq {name : Name} (lettered : name.IsLettered) :
    name.text.measured = .ok name.display := by
  obtain ⟨text, textEq⟩ := lettered
  simp [Name.display, NameText.measured, textEq]

/-! ### Search without pruning -/

/-- The match that two names are when their texts are compared in full. -/
def compareInFull? (threshold : Threshold) (first second : Name) : Option Match :=
  let comparison := compareTexts first.display second.display threshold
  if comparison.exceeds then
    some
      { first := first
        second := second
        score := comparison.score
        evidence := comparison.evidence }
  else none

/-- The matches among all pairs of names when every pair is compared in full. -/
def matchesInFull (threshold : Threshold) (names : List Name) : List Match :=
  (indexPairs names.length).filterMap fun pair =>
    compareInFull? threshold names[pair.1] names[pair.2]

/-- Judging two names finds the match that comparing them in full finds. -/
theorem match?_judgeTexts (threshold : Threshold) (first second : Name) :
    (judgeTexts threshold first second first.display second.display).match? =
      compareInFull? threshold first second := by
  simp only [judgeTexts, compareInFull?]
  by_cases exceeds : threshold.isExceededBy (score first.display second.display) = true
  · have exceeds' : (compareTexts first.display second.display threshold).exceeds = true :=
      exceeds
    rw [if_pos exceeds', if_pos exceeds, if_pos (mayReach_of_isExceededBy exceeds)]
    rfl
  · have exceeds' : ¬(compareTexts first.display second.display threshold).exceeds = true :=
      exceeds
    rw [if_neg exceeds', if_neg exceeds]
    split_ifs <;> rfl

theorem judge_eq_ok {threshold : Threshold} {pair : Name × Name}
    (firstLettered : pair.1.IsLettered) (secondLettered : pair.2.IsLettered) :
    judge threshold pair =
      .ok (judgeTexts threshold pair.1 pair.2 pair.1.display pair.2.display) := by
  simp [judge, firstLettered.measured_eq, secondLettered.measured_eq, bind, Except.bind,
    pure, Except.pure]

theorem mapM_eq_ok_map {Given Result Fault : Type} {step : Given → Except Fault Result}
    {result : Given → Result} {given : List Given}
    (ok : ∀ one ∈ given, step one = .ok (result one)) :
    given.mapM step = .ok (given.map result) := by
  induction given with
  | nil => rfl
  | cons one given ih =>
      have rest := ih fun other mem => ok other (by simp [mem])
      simp [ok one (by simp), rest, bind, Except.bind, pure, Except.pure]

/-- Names with texts can be matched, and pruning changes nothing: the matches are those of
the search that compares every pair of indices in full, in lexicographic order. -/
theorem matchNames_eq_matchesInFull (threshold : Threshold) (names : List Name)
    (lettered : ∀ name ∈ names, name.IsLettered) :
    ∃ matching,
      matchNames threshold names = .ok matching ∧
        (∀ scope, matchCollection threshold { scope := scope, names := names } = .ok matching) ∧
        matching.found = matchesInFull threshold names := by
  have judged : (pairs names).mapM (judge threshold) = .ok ((pairs names).map fun pair =>
      judgeTexts threshold pair.1 pair.2 pair.1.display pair.2.display) := by
    apply mapM_eq_ok_map
    intro pair mem
    obtain ⟨firstMem, secondMem⟩ := mem_of_mem_pairs mem
    exact judge_eq_ok (lettered pair.1 firstMem) (lettered pair.2 secondMem)
  have matched : matchNames threshold names = .ok
      { nameCount := names.length
        threshold := threshold
        verdicts := (pairs names).map fun pair =>
          judgeTexts threshold pair.1 pair.2 pair.1.display pair.2.display } := by
    simp only [matchNames, judged]
    rfl
  refine ⟨_, matched, fun scope => ?_, ?_⟩
  · simp [matchCollection, matched, Except.mapError]
  · simp only [Matching.found, matchesInFull, List.filterMap_map, Function.comp_def,
      match?_judgeTexts, pairs_eq_map_indexPairs]

/-- Names of which one is empty, two are equal, and two have lengths whose ratio is just
the threshold. -/
theorem matchNames_eq_matchesInFull_of_repeated :
    (∀ name ∈ ["abcd", "", "abc", "abcd"].map Name.ofString, name.IsLettered) ∧
      ∃ matching,
        matchNames ⟨3 / 4, by norm_num, by norm_num⟩
            (["abcd", "", "abc", "abcd"].map Name.ofString) = .ok matching ∧
          (∀ scope, matchCollection ⟨3 / 4, by norm_num, by norm_num⟩
            { scope := scope, names := ["abcd", "", "abc", "abcd"].map Name.ofString } =
              .ok matching) ∧
          matching.found = matchesInFull ⟨3 / 4, by norm_num, by norm_num⟩
            (["abcd", "", "abc", "abcd"].map Name.ofString) := by
  have lettered : ∀ name ∈ ["abcd", "", "abc", "abcd"].map Name.ofString,
      name.IsLettered := by
    simp [Name.IsLettered, Name.ofString]
  exact ⟨lettered, matchNames_eq_matchesInFull _ _ lettered⟩

end Lookalike
