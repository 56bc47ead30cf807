import Lookalike.Proofs.Matching.HarvestedScopes
import Lookalike.Proofs.Number.Integers
import Mathlib.Algebra.Order.Ring.Nat
import Mathlib.Data.Nat.Choose.Basic

/-!
# Every pair is accounted for

The pairs of a list of names are the pairs of its places, each once and in lexicographic order,
whatever stands at them.  Matching judges each of them once: it is pruned or scored, and every
match is one of the scored pairs, so that the counts of the summary add up to the number of pairs.
-/

namespace Lookalike

/-! ### The number and the order of the pairs -/

theorem length_pairs {Member : Type} (members : List Member) :
    (pairs members).length = members.length * (members.length - 1) / 2 := by
  induction members with
  | nil => simp [pairs]
  | cons member members ih =>
      rw [pairs, List.length_append, List.length_map, ih, List.length_cons, Nat.triangle_succ]
      omega

/-- Index pairs stand in lexicographic order. -/
theorem pairwise_indexPairs (count : ℕ) :
    (indexPairs count).Pairwise fun earlier later =>
      earlier.1 < later.1 ∨ earlier.1 = later.1 ∧ earlier.2 < later.2 := by
  rw [indexPairs, List.pairwise_flatMap]
  constructor
  · intro first _
    rw [List.pairwise_map]
    refine ((List.pairwise_lt_finRange count).filter _).imp ?_
    intro second second' lt
    exact Or.inr ⟨rfl, lt⟩
  · refine (List.pairwise_lt_finRange count).imp ?_
    intro first first' lt earlier inRow later inRow'
    simp only [List.mem_map] at inRow inRow'
    rcases inRow with ⟨second, -, rfl⟩
    rcases inRow' with ⟨second', -, rfl⟩
    exact Or.inl lt

/-! ### Pruned pairs -/

/-- Whether the lengths of two names rule out that they match: one is empty, or the ratio of the
shorter length to the longer one, correctly rounded, is below the threshold. -/
def FallsShort (threshold : Threshold) (first second : Name) : Prop :=
  first.display = "" ∨ second.display = "" ∨
    (Binary64.ofRatio false (min first.display.length second.display.length)
      (max first.display.length second.display.length)).lt threshold.number = true

instance (threshold : Threshold) (first second : Name) :
    Decidable (FallsShort threshold first second) :=
  inferInstanceAs (Decidable (_ ∨ _ ∨ _))

theorem mayReach_eq_false_iff {threshold : Threshold} {first second : Name} :
    mayReach first.display.length second.display.length (.float threshold.number) = false ↔
      FallsShort threshold first second := by
  simp only [mayReach, FallsShort, ← or_assoc, String.length_eq_zero_iff]
  split_ifs with empty
  · simp only [empty, true_or]
  · rw [Binary64.lt_iff_not_le (Binary64.ofRatio_ne_nan _ _ _) Binary64.noConfusion]
    simp only [empty, false_or, Number.leFloat, Bool.eq_false_iff, ne_eq]

section

variable {threshold : Threshold} {names : List Name}

/-- What becomes of two names that have texts. -/
def verdictOn (threshold : Threshold) (pair : Name × Name) : Verdict :=
  judgeTexts threshold pair.1 pair.2 pair.1.display pair.2.display

theorem isPruned_verdictOn (threshold : Threshold) (pair : Name × Name) :
    (verdictOn threshold pair).isPruned = decide (FallsShort threshold pair.1 pair.2) := by
  simp only [verdictOn, judgeTexts, ← mayReach_eq_false_iff]
  split_ifs with passes exceeds <;> simp [Verdict.isPruned, passes]

theorem matchNames_eq_ok_verdicts (lettered : ∀ name ∈ names, name.IsLettered) :
    matchNames threshold names = .ok
      { nameCount := names.length
        threshold := threshold
        verdicts := (pairs names).map (verdictOn threshold) } := by
  have judged : (pairs names).mapM (judge threshold) =
      .ok ((pairs names).map (verdictOn threshold)) := by
    apply mapM_eq_ok_map
    intro pair mem
    rcases mem_of_mem_pairs mem with ⟨firstMem, secondMem⟩
    exact judge_eq_ok (lettered pair.1 firstMem) (lettered pair.2 secondMem)
  rw [matchNames, judged]
  rfl

end

/-! ### The counts -/

namespace Matching

theorem prunedCount_add_scoredCount (matching : Matching) :
    matching.prunedCount + matching.scoredCount = matching.verdicts.length := by
  rw [prunedCount, scoredCount, List.length_eq_countP_add_countP Verdict.isPruned]
  simp

/-- A match is a verdict on a pair that was scored. -/
theorem length_found_le_scoredCount (matching : Matching) :
    matching.found.length ≤ matching.scoredCount := by
  rw [found, scoredCount, List.length_filterMap_eq_countP]
  apply List.countP_mono_left
  intro verdict _ matched
  cases verdict with
  | pruned => simp [Verdict.match?] at matched
  | scored => rfl
  | matched found => rfl

end Matching

/-- The pairs of a list of names are those of its places, each once, in lexicographic order.  When
names with texts are matched, the log has one line for each match, in the order of the matches, and
then a summary: each pair was either pruned, which happened to those whose lengths fall short, or
scored, and no more pairs matched than were scored. -/
theorem each_pair_pruned_or_scored (threshold : Threshold) (names : List Name) :
    (pairs names =
        (indexPairs names.length).map fun places =>
          (names.get places.1, names.get places.2)) ∧
      (∀ places, places ∈ indexPairs names.length ↔ places.1 < places.2) ∧
      ((indexPairs names.length).Pairwise fun earlier later =>
        earlier.1 < later.1 ∨ earlier.1 = later.1 ∧ earlier.2 < later.2) ∧
      (pairs names).length = names.length * (names.length - 1) / 2 ∧
      ((∀ name ∈ names, name.IsLettered) →
        ∃ matching pruned scored, matchNames threshold names = .ok matching ∧
          matching.log = matching.found.map Matching.matchLine ++
            ["Matched " ++ toString names.length ++ " names: " ++ toString pruned ++
              " pairs pruned, " ++ toString scored ++ " scored, " ++
              toString matching.found.length ++ " above " ++ threshold.number.fixed 2] ∧
          pruned + scored = names.length * (names.length - 1) / 2 ∧
          pruned = (indexPairs names.length).countP
            (fun places => FallsShort threshold (names.get places.1) (names.get places.2)) ∧
          matching.found.length ≤ scored) := by
  refine ⟨pairs_eq_map_indexPairs names, fun _ => mem_indexPairs, pairwise_indexPairs _,
    length_pairs names, ?_⟩
  intro lettered
  refine ⟨_, _, _, matchNames_eq_ok_verdicts lettered, rfl, ?_, ?_, ?_⟩
  · rw [Matching.prunedCount_add_scoredCount, List.length_map, length_pairs]
  · rw [Matching.prunedCount, List.countP_map, pairs_eq_map_indexPairs, List.countP_map]
    simp only [Function.comp_def, isPruned_verdictOn, List.get_eq_getElem, Fin.getElem_fin]
  · exact Matching.length_found_le_scoredCount _

end Lookalike
