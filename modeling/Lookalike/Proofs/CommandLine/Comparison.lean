import Lookalike.Proofs.CommandLine.Session
import Lookalike.Proofs.CommandLine.Words
import Lookalike.Proofs.Number.Text

/-!
# Comparing on the command line

The command that compares two texts reads the environment as a client does: it succeeds just if
the environment gives a client, and then it shows what that client finds.  The one exception is
a threshold variable that holds white space alone, which a client takes for unset and the
command refuses.
-/

namespace Lookalike

namespace CommandLine

variable {around : Surroundings} {first second : String}

/-- The words of a comparison leave nothing to the options. -/
theorem outcome_compare (firstPlain : isOptionWord first.toList = false)
    (secondPlain : isOptionWord second.toList = false) :
    outcome around ["compare", first, second] =
      match sessionThreshold around.environment { words := ["compare", first, second] } with
      | .error fault => misuse topForm fault
      | .ok threshold =>
          match sessionConfig around.environment threshold with
          | .error error => .failure error.message
          | .ok session =>
              match Threshold.ofJson session.threshold with
              | .error error => .failure error.message
              | .ok threshold =>
                  { output := fun _ =>
                      String.join ((comparisonLines (compareTexts first second threshold)).map
                        (· ++ "\n")) } := by
  have topRead : readWords topForm ["compare", first, second] =
      .ok { words := ["compare", first, second] } :=
    readWords_of_plain_cons rfl (by decide) [first, second]
  have plain : ∀ word ∈ [first, second], isOptionWord word.toList = false := by
    simp [firstPlain, secondPlain]
  have ownRead : readWords compareForm [first, second] = .ok { words := [first, second] } :=
    readWords_of_plain rfl plain
  have noEarly : early? topForm { words := ["compare", first, second] } = none := rfl
  have isCommand : commandNames.contains "compare" = true := by decide
  have isCompare : "compare" ≠ "check" := by decide
  simp only [outcome, topRead, noEarly]
  cases sessionThreshold around.environment { words := ["compare", first, second] } with
  | error fault => rfl
  | ok threshold =>
      simp only [isCommand, if_true, runCommand]
      cases sessionConfig around.environment threshold with
      | error error => rfl
      | ok session =>
          simp only [isCompare, if_false, runCompare, ownRead]
          rfl

/-- In an environment that gives a client, the comparison of that client is shown. -/
theorem outcome_compare_of_client {client : Client}
    (firstPlain : isOptionWord first.toList = false)
    (secondPlain : isOptionWord second.toList = false)
    (built : Client.ofEnvironment around.environment [] = .ok client)
    (notBlank : ¬around.environment.HasBlankThreshold) :
    outcome around ["compare", first, second] =
      { output := fun _ =>
          String.join ((comparisonLines (client.compare first second)).map (· ++ "\n")) } := by
  obtain ⟨-, valid⟩ := Client.ofEnvironment_nil_eq_ok_iff.mp built
  obtain ⟨thresholdRead, -⟩ := Config.validate_eq_ok_iff.mp valid
  have notGiven :
      (({ words := ["compare", first, second] } : ReadWords).value? .threshold).map readFloat? =
        (none : Option Threshold).map fun threshold => some threshold.number := rfl
  obtain ⟨threshold, thresholdEq, configEq⟩ := session_eq built notBlank notGiven
  rw [outcome_compare firstPlain secondPlain, thresholdEq]
  simp only [configEq, Option.map_none, withThreshold, thresholdRead]
  rfl

/-- In an environment that gives no client, nothing is shown. -/
theorem exit_compare_of_no_client (firstPlain : isOptionWord first.toList = false)
    (secondPlain : isOptionWord second.toList = false)
    (noClient : ¬∃ client, Client.ofEnvironment around.environment [] = .ok client)
    (notBlank : ¬around.environment.HasBlankThreshold) :
    (outcome around ["compare", first, second]).exit ≠ 0 := by
  rw [outcome_compare firstPlain secondPlain]
  cases thresholdEq : sessionThreshold around.environment
      { words := ["compare", first, second] } with
  | error fault => exact Nat.succ_ne_zero 1
  | ok threshold =>
      -- The variable is fit for an option, so the settings of the session are those of a client.
      have failed : ∃ error, sessionConfig around.environment threshold = .error error := by
        cases configRead : Config.ofEnvironment around.environment with
        | error error => exact ⟨error, by simp [sessionConfig, configRead, bind, Except.bind]⟩
        | ok config =>
            have notGiven :
                ({ words := ["compare", first, second] } : ReadWords).value? .threshold = none :=
              rfl
            obtain ⟨_, sameThreshold, same⟩ :=
              sessionThreshold_of_none configRead notBlank notGiven
            obtain rfl := Except.ok.inj (sameThreshold.symm.trans thresholdEq)
            rw [sessionConfig_eq configRead, same]
            cases valid : config.validate with
            | error error => exact ⟨error, rfl⟩
            | ok threshold =>
                have built := Client.ofEnvironment_nil_eq_ok_iff.mpr
                  (show Config.ofEnvironment around.environment =
                      .ok (Client.mk config threshold).config ∧ _ from ⟨configRead, valid⟩)
                exact absurd ⟨_, built⟩ noClient
      obtain ⟨error, configEq⟩ := failed
      simp only [configEq]
      exact Nat.succ_ne_zero 0

theorem exit_compare_of_blank (firstPlain : isOptionWord first.toList = false)
    (secondPlain : isOptionWord second.toList = false)
    (blank : around.environment.HasBlankThreshold) :
    (outcome around ["compare", first, second]).exit = 2 := by
  have notGiven :
      ({ words := ["compare", first, second] } : ReadWords).value? .threshold = none := rfl
  obtain ⟨fault, refused⟩ := sessionThreshold_of_hasBlank blank notGiven
  rw [outcome_compare firstPlain secondPlain, refused]
  rfl

/-! ### What is written -/

theorem isPlain_thresholdLine (threshold : Threshold) :
    IsPlain ("Above the similarity threshold of " ++ threshold.number.fixed 2 ++ ".\n") := by
  have literals : IsPlain "Above the similarity threshold of " ∧ IsPlain ".\n" := by decide
  simp only [isPlain_append, isPlain_fixed, literals, and_self]

theorem join_comparisonLines (comparison : Comparison) :
    String.join ((comparisonLines comparison).map (· ++ "\n")) =
      "\"" ++ comparison.first ++ "\" and \"" ++ comparison.second ++ "\" are " ++
        roundedPercentage comparison.score ++ "% similar.\n" ++
        "One of the longest common sequences is \"" ++ comparison.evidence ++ "\"." ++ "\n" ++
        if comparison.exceeds then
          "Above the similarity threshold of " ++ comparison.threshold.number.fixed 2 ++ ".\n"
        else "" := by
  rw [← String.toList_inj]
  cases exceeds : comparison.exceeds <;> simp [comparisonLines, exceeds]

/-- Of the lines about a comparison only the first two can hold control sequences. -/
theorem withoutControlSequences_comparisonLines (comparison : Comparison) :
    withoutControlSequences
        (String.join ((comparisonLines comparison).map (· ++ "\n"))) =
      withoutControlSequences
          ("\"" ++ comparison.first ++ "\" and \"" ++ comparison.second ++ "\" are " ++
            roundedPercentage comparison.score ++ "% similar.\n" ++
            "One of the longest common sequences is \"" ++ comparison.evidence ++ "\"." ++ "\n") ++
        if comparison.exceeds then
          "Above the similarity threshold of " ++ comparison.threshold.number.fixed 2 ++ ".\n"
        else "" := by
  rw [join_comparisonLines, withoutControlSequences_append_line]
  congr 1
  split_ifs
  · exact withoutControlSequences_of_isPlain (isPlain_thresholdLine comparison.threshold)
  · rfl

/-- Comparing on the command line agrees with a client.  It succeeds just if the environment
gives a client, unless the threshold variable is blank but not empty, and it shows the score and
the evidence that the client finds.  A last line says so just if the score exceeds the
threshold. -/
theorem comparison_agrees_with_client (around : Surroundings) {first second : String}
    (firstPlain : isOptionWord first.toList = false)
    (secondPlain : isOptionWord second.toList = false) :
    let run := run around ["compare", first, second]
    (run.exit = 0 ↔
        (∃ client, Client.ofEnvironment around.environment [] = .ok client) ∧
          ¬around.environment.HasBlankThreshold) ∧
      (around.environment.HasBlankThreshold → run.exit = 2) ∧
      ∀ client, Client.ofEnvironment around.environment [] = .ok client →
        ¬around.environment.HasBlankThreshold →
          run.errors = "" ∧ ∀ elapsed,
            let comparison := client.compare first second
            run.output elapsed =
              withoutControlSequences
                  ("\"" ++ first ++ "\" and \"" ++ second ++ "\" are " ++
                    roundedPercentage comparison.score ++ "% similar.\n" ++
                    "One of the longest common sequences is \"" ++ comparison.evidence ++ "\"." ++
                    "\n") ++
                if comparison.exceeds then
                  "Above the similarity threshold of " ++ client.threshold.number.fixed 2 ++ ".\n"
                else "" := by
  refine ⟨⟨fun success => ?_, ?_⟩, exit_compare_of_blank firstPlain secondPlain, ?_⟩
  · have notBlank : ¬around.environment.HasBlankThreshold := by
      intro blank
      cases success.symm.trans (exit_compare_of_blank firstPlain secondPlain blank)
    refine ⟨?_, notBlank⟩
    by_contra noClient
    exact exit_compare_of_no_client firstPlain secondPlain noClient notBlank success
  · rintro ⟨⟨client, built⟩, notBlank⟩
    simp only [run, outcome_compare_of_client firstPlain secondPlain built notBlank]
    rfl
  · intro client built notBlank
    simp only [run, outcome_compare_of_client firstPlain secondPlain built notBlank]
    refine ⟨rfl, fun elapsed => ?_⟩
    exact withoutControlSequences_comparisonLines (client.compare first second)

/-- With nothing in the environment, and a dash as a text. -/
theorem comparison_agrees_with_client_of_unset :
    isOptionWord "abcd".toList = false ∧ isOptionWord "-".toList = false ∧
      Client.ofEnvironment [] [] = .ok .default ∧ ¬Environment.HasBlankThreshold [] ∧
      (run { tree := {} } ["compare", "abcd", "-"]).exit = 0 ∧
      (run { tree := {} } ["compare", "abcd", "-"]).errors = "" := by
  have firstPlain : isOptionWord "abcd".toList = false := by decide
  have secondPlain : isOptionWord "-".toList = false := by decide
  have notBlank := Environment.not_hasBlankThreshold_nil
  obtain ⟨succeeds, -, shows⟩ :=
    comparison_agrees_with_client { tree := {} } firstPlain secondPlain
  have built := Client.ofEnvironment_unset
  exact ⟨firstPlain, secondPlain, built, notBlank, succeeds.mpr ⟨⟨_, built⟩, notBlank⟩,
    (shows _ built notBlank).1⟩

theorem client_of_blank :
    Client.ofEnvironment [("NAMESAKE_SIMILARITY_THRESHOLD", " ")] [] = .ok .default :=
  Client.ofEnvironment_nil_eq_ok_iff.mpr ⟨rfl, Config.validate_float Client.default.threshold⟩

/-- A threshold variable of one blank gives a client, but no comparison. -/
theorem blank_threshold_refused :
    let around : Surroundings :=
      { tree := {}, environment := [("NAMESAKE_SIMILARITY_THRESHOLD", " ")] }
    (∃ client, Client.ofEnvironment around.environment [] = .ok client) ∧
      (run around ["compare", "a", "b"]).exit = 2 := by
  intro around
  have blank : around.environment.HasBlankThreshold := ⟨" ", rfl, by decide, by decide⟩
  exact ⟨⟨.default, client_of_blank⟩, exit_compare_of_blank (by decide) (by decide) blank⟩

end CommandLine

end Lookalike
