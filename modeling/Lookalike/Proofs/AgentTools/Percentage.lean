import Lookalike.AgentTools
import Lookalike.Proofs.Number.Percentage
import Lookalike.Proofs.Similarity.ReachableScore

/-!
# The percentages that are shown

A match of a list and the two answers that agents get about names show the same percentage of
two texts, cut off from their score.  It is not always the exact percentage, cut off: texts of
which exactly 29, 57 or 58 hundredths are common are shown one percent less.
-/

namespace Lookalike

/-! ### Scores of matches -/

section

variable {Given Result Fault : Type}

theorem exists_of_bind_eq_ok {first : Except Fault Given} {next : Given → Except Fault Result}
    {result : Result} (ok : first >>= next = .ok result) :
    ∃ given, first = .ok given ∧ next given = .ok result := by
  cases first with
  | error fault => cases ok
  | ok given => exact ⟨given, rfl, ok⟩

theorem exists_of_mem_mapM_eq_ok {step : Given → Except Fault Result} {given : List Given}
    {results : List Result} (ok : given.mapM step = .ok results) {result : Result}
    (mem : result ∈ results) : ∃ one ∈ given, step one = .ok result := by
  induction given generalizing results with
  | nil =>
      cases ok
      cases mem
  | cons one given ih =>
      rw [List.mapM_cons] at ok
      rcases exists_of_bind_eq_ok ok with ⟨first, firstEq, ok⟩
      rcases exists_of_bind_eq_ok ok with ⟨others, othersEq, ok⟩
      cases ok
      rcases List.mem_cons.mp mem with rfl | mem
      · exact ⟨one, List.mem_cons_self, firstEq⟩
      · rcases ih othersEq mem with ⟨other, otherMem, otherEq⟩
        exact ⟨other, List.mem_cons_of_mem one otherMem, otherEq⟩

end

theorem display_of_measured {name : Name} {text : String}
    (measured : name.text.measured = .ok text) : name.display = text := by
  rw [Name.display]
  cases textEq : name.text with
  | letters letters =>
      rw [textEq] at measured
      exact Except.ok.inj measured
  | unsized value =>
      rw [textEq] at measured
      cases measured

theorem score_of_match?_judgeTexts {threshold : Threshold} {first second : Name}
    {firstText secondText : String} {found : Match}
    (matched : (judgeTexts threshold first second firstText secondText).match? = some found) :
    found.first = first ∧ found.second = second ∧ found.score = score firstText secondText := by
  simp only [judgeTexts] at matched
  split_ifs at matched <;> cases matched
  exact ⟨rfl, rfl, rfl⟩

/-- Both names of a match have texts, and it has the score of these texts. -/
theorem score_of_mem_found {threshold : Threshold} {names : List Name} {matching : Matching}
    (matched : matchNames threshold names = .ok matching) {found : Match}
    (mem : found ∈ matching.found) :
    found.score = score found.first.display found.second.display := by
  rcases exists_of_bind_eq_ok matched with ⟨verdicts, verdictsEq, matchingEq⟩
  cases matchingEq
  rcases List.mem_filterMap.mp mem with ⟨verdict, verdictMem, foundEq⟩
  rcases exists_of_mem_mapM_eq_ok verdictsEq verdictMem with ⟨pair, -, judged⟩
  rcases exists_of_bind_eq_ok judged with ⟨firstText, firstEq, judged⟩
  rcases exists_of_bind_eq_ok judged with ⟨secondText, secondEq, judged⟩
  cases judged
  rcases score_of_match?_judgeTexts foundEq with ⟨firstIs, secondIs, scoreEq⟩
  rw [scoreEq, firstIs, secondIs, display_of_measured firstEq, display_of_measured secondEq]

theorem matchNames_of_matchCollection {threshold : Threshold} {collection : Collection}
    {matching : Matching} (matched : matchCollection threshold collection = .ok matching) :
    matchNames threshold collection.names = .ok matching := by
  rw [matchCollection] at matched
  cases outcome : matchNames threshold collection.names with
  | error fault =>
      rw [outcome] at matched
      cases matched
  | ok found =>
      rw [outcome] at matched
      cases matched
      rfl

/-! ### Percentages -/

/-- The percentages that are shown for two texts: with a match, in the answer to an agent that
compares the two, and in the answer to an agent about a list. -/
inductive ShowsPercentage (first second : String) : ℤ → Prop
  | ofMatch {threshold : Threshold} {names : List Name} {matching : Matching} {found : Match}
      (matched : matchNames threshold names = .ok matching) (mem : found ∈ matching.found)
      (first_eq : found.first.text = .letters first)
      (second_eq : found.second.text = .letters second) :
      ShowsPercentage first second found.percentage
  | ofComparison {threshold : Threshold} {answer : Json} {shown : ℤ}
      (compared :
        AgentTools.compareNames threshold (.letters first) (.letters second) = .ok answer)
      (percentage_eq : answer.field? "percentage" = some (.int shown)) :
      ShowsPercentage first second shown
  | ofFinding {threshold : Threshold} {values : List Json} {answer entry : Json}
      {entries : List Json} {shown : ℤ}
      (answered : AgentTools.findSimilar threshold values = .ok answer)
      (matches_eq : answer.field? "matches" = some (.array entries)) (mem : entry ∈ entries)
      (first_eq : entry.field? "first" = some (.string first))
      (second_eq : entry.field? "second" = some (.string second))
      (percentage_eq : entry.field? "percentage" = some (.int shown)) :
      ShowsPercentage first second shown

namespace ShowsPercentage

variable {first second : String} {shown : ℤ}

/-- Wherever a percentage is shown, it is cut off from the score of the two texts. -/
theorem eq_wholePercentage (shows : ShowsPercentage first second shown) :
    shown = wholePercentage (score first second) := by
  cases shows with
  | ofMatch matched mem first_eq second_eq =>
      rw [Match.percentage, score_of_mem_found matched mem]
      simp [Name.display, first_eq, second_eq]
  | ofComparison compared percentage_eq =>
      cases compared
      cases percentage_eq
      rfl
  | ofFinding answered matches_eq mem first_eq second_eq percentage_eq =>
      rcases exists_of_bind_eq_ok answered with ⟨matching, matched, answerEq⟩
      cases answerEq
      cases matches_eq
      rcases List.mem_map.mp mem with ⟨found, foundMem, rfl⟩
      cases first_eq
      cases second_eq
      cases percentage_eq
      rw [Match.percentage, score_of_mem_found (matchNames_of_matchCollection matched) foundMem]

theorem of_compareNames (first second : String) :
    ShowsPercentage first second (wholePercentage (score first second)) :=
  @ofComparison first second ⟨1, one_pos, le_rfl⟩ _ _ rfl rfl

end ShowsPercentage

/-- The percentage that is shown for two texts is the exact one, cut off, where that is no whole
number and the texts have at most `2 ^ 45` letters.  A whole number is shown as it is, but for
three that are shown as one less.  For texts of any length, a number is cut off that is less than
`2 ^ -45` away from the exact percentage. -/
theorem shown_percentage_cut_off {first second : String} (firstNe : first ≠ "")
    (secondNe : second ≠ "") :
    (∃ shown, ShowsPercentage first second shown) ∧
      ∃ common longer : ℕ,
        IsGreatest
          {count | ∃ common : List Char, common.Sublist first.toList ∧
            common.Sublist second.toList ∧ common.length = count} common ∧
        longer = max first.length second.length ∧
        ∀ shown, ShowsPercentage first second shown →
          (∀ whole : ℕ, 100 * common = whole * longer →
            shown = if whole ∈ [29, 57, 58] then (whole : ℤ) - 1 else whole) ∧
          (longer ≤ 2 ^ 45 → ¬longer ∣ 100 * common →
            shown = (100 * common / longer : ℕ)) ∧
          ⌊100 * (common / longer : ℚ) - 2 ^ (-45 : ℤ)⌋ ≤ shown ∧
            shown ≤ ⌊100 * (common / longer : ℚ) + 2 ^ (-45 : ℤ)⌋ := by
  constructor
  · exact ⟨_, ShowsPercentage.of_compareNames first second⟩
  refine ⟨commonLength first.toList second.toList, max first.length second.length, ?_, rfl, ?_⟩
  · exact isGreatest_commonLength first.toList second.toList
  intro shown shows
  have positive : 0 < max first.length second.length := by
    have firstPos : 0 < first.length := by
      simpa [Nat.pos_iff_ne_zero] using firstNe
    omega
  have le : commonLength first.toList second.toList ≤ max first.length second.length := by
    rw [← String.length_toList, ← String.length_toList]
    exact commonLength_le_max first.toList second.toList
  rw [shows.eq_wholePercentage, score_eq_ofRatio_commonLength firstNe secondNe]
  refine ⟨?_, ?_, ?_⟩
  · intro whole wholeEq
    exact wholePercentage_of_whole positive le wholeEq
  · intro small notWhole
    exact wholePercentage_of_not_dvd le small notWhole
  · exact wholePercentage_bounds positive le

theorem isGreatest_repeatedLetter (firstLength secondLength : ℕ) :
    IsGreatest
      {count | ∃ common : List Char, common.Sublist (repeatedLetter firstLength).toList ∧
        common.Sublist (repeatedLetter secondLength).toList ∧ common.length = count}
      (min firstLength secondLength) := by
  rw [← commonLength_repeatedLetter]
  exact isGreatest_commonLength _ _

/-- Two letters of three are common, which is a little more than 66 percent. -/
theorem shown_percentage_cut_off_of_two_thirds :
    repeatedLetter 2 ≠ "" ∧ repeatedLetter 3 ≠ "" ∧
      ∀ shown, ShowsPercentage (repeatedLetter 2) (repeatedLetter 3) shown → shown = 66 := by
  have firstNe : repeatedLetter 2 ≠ "" := repeatedLetter_ne_empty (by decide)
  have secondNe : repeatedLetter 3 ≠ "" := repeatedLetter_ne_empty (by decide)
  refine ⟨firstNe, secondNe, ?_⟩
  rcases (shown_percentage_cut_off firstNe secondNe).2 with
    ⟨common, longer, greatest, longerEq, shownOf⟩
  obtain rfl : common = 2 := greatest.unique (isGreatest_repeatedLetter 2 3)
  rw [length_repeatedLetter, length_repeatedLetter] at longerEq
  obtain rfl : longer = 3 := longerEq
  intro shown shows
  exact (shownOf shown shows).2.1 (by norm_num) (by norm_num)

/-- Of two texts exactly 58 hundredths are common, and 57 percent are shown. -/
theorem fiftyEight_shown_as_fiftySeven :
    (repeatedLetter 29).length = 29 ∧ (repeatedLetter 50).length = 50 ∧
      IsGreatest
        {count | ∃ common : List Char, common.Sublist (repeatedLetter 29).toList ∧
          common.Sublist (repeatedLetter 50).toList ∧ common.length = count} 29 ∧
      100 * 29 / max 29 50 = 58 ∧
      ShowsPercentage (repeatedLetter 29) (repeatedLetter 50) 57 := by
  have percentageEq : wholePercentage (score (repeatedLetter 29) (repeatedLetter 50)) = 57 := by
    rw [score_repeatedLetter (by decide) (by decide)]
    decide +kernel
  refine ⟨length_repeatedLetter 29, length_repeatedLetter 50, ?_, rfl, ?_⟩
  · exact isGreatest_repeatedLetter 29 50
  · rw [← percentageEq]
    exact ShowsPercentage.of_compareNames _ _

end Lookalike
