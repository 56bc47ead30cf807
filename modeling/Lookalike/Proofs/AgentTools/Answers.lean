import Lookalike.AgentTools
import Lookalike.Proofs.Config.Clients
import Lookalike.Proofs.Matching.HarvestedScopes

/-!
# Answers to agents

An agent that asks for the similar names of a list is answered with the matches that a client
finds, although empty texts are left out for the agent only: no text is similar to an empty
one, and leaving members out does not change the order of the other pairs.  An agent that asks
for a comparison is told that two names are similar just if they are the match of the list of
the two.
-/

namespace Lookalike

/-! ### Members that no result needs -/

/-- Members may be left out of a list before it is paired, if no pair that has one of them
gives a result. -/
theorem filterMap_pairs_filter {Member Result : Type} {keep : Member → Bool}
    {result? : Member × Member → Option Result}
    (needless : ∀ pair, keep pair.1 = false ∨ keep pair.2 = false → result? pair = none)
    (members : List Member) :
    (pairs (members.filter keep)).filterMap result? = (pairs members).filterMap result? := by
  induction members with
  | nil => rfl
  | cons member members ih =>
      cases kept : keep member with
      | false =>
          have noResult : (members.map fun later => (member, later)).filterMap result? = [] := by
            simp only [List.filterMap_eq_nil_iff, List.forall_mem_map]
            exact fun later _ => needless (member, later) (.inl kept)
          rw [List.filter_cons_of_neg (by simp [kept]), ih, pairs, List.filterMap_append,
            noResult, List.nil_append]
      | true =>
          -- The member stays, and those that are missing behind it gave no result with it.
          have sameResults :
              ((members.filter keep).map fun later => (member, later)).filterMap result? =
                (members.map fun later => (member, later)).filterMap result? := by
            rw [List.filterMap_map, List.filterMap_map, List.filterMap_filter]
            congr 1
            funext later
            cases keptLater : keep later with
            | false => exact (needless (member, later) (.inr keptLater)).symm
            | true => rfl
          rw [List.filter_cons_of_pos kept, pairs, pairs, List.filterMap_append,
            List.filterMap_append, sameResults, ih]

theorem compareInFull?_of_empty {threshold : Threshold} {first second : Name}
    (empty : first.display = "" ∨ second.display = "") :
    compareInFull? threshold first second = none := by
  have scoreEq : score first.display second.display = .finite 0 :=
    score_of_empty (empty.imp (by simp +contextual) (by simp +contextual))
  have notAbove : threshold.isExceededBy (.finite 0) = false := by
    simpa [Threshold.isExceededBy, Threshold.number] using threshold.positive.le
  rw [compareInFull?_eq, scoreEq, notAbove]
  rfl

/-- Names with empty texts match no other name. -/
theorem matchesInFull_filter_not_isEmpty (threshold : Threshold) (names : List Name) :
    matchesInFull threshold (names.filter fun name => !name.display.isEmpty) =
      matchesInFull threshold names := by
  rw [matchesInFull_eq_filterMap_pairs, matchesInFull_eq_filterMap_pairs]
  apply filterMap_pairs_filter
  intro pair empty
  apply compareInFull?_of_empty
  simpa using empty

theorem isLettered_of_mem_map_ofString {texts : List String} {name : Name}
    (mem : name ∈ texts.map Name.ofString) : name.IsLettered := by
  obtain ⟨text, -, rfl⟩ := List.mem_map.mp mem
  exact ⟨text, rfl⟩

theorem matchesInFull_pair (threshold : Threshold) (first second : Name) :
    matchesInFull threshold [first, second] =
      (compareInFull? threshold first second).toList := by
  rw [matchesInFull_eq_filterMap_pairs]
  cases compared : compareInFull? threshold first second <;> simp [pairs, compared]

/-! ### Answers -/

/-- A client finds all matches of a list of texts. -/
theorem Client.found_matchNames (client : Client) (texts : List String) :
    (client.matchNames (texts.map Name.ofString)).map Matching.found =
      .ok (matchesInFull client.threshold (texts.map Name.ofString)) := by
  have lettered : ∀ name ∈ texts.map Name.ofString, name.IsLettered := by
    intro name mem
    exact isLettered_of_mem_map_ofString mem
  obtain ⟨matching, matched, foundEq⟩ := exists_matchNames_eq_ok client.threshold lettered
  simp [matchNames, matchCollection, matched, Except.mapError, Except.map, foundEq]

namespace AgentTools

theorem givenNames_map_string (texts : List String) :
    givenNames (texts.map .string) =
      (texts.map Name.ofString).filter fun name => !name.display.isEmpty := by
  simp [givenNames, List.filter_map, Function.comp_def, Json.display, Name.ofString,
    Name.display]

/-- An agent is told all matches of a list of texts, the empty ones included. -/
theorem findSimilar_map_string (threshold : Threshold) (texts : List String) :
    findSimilar threshold (texts.map .string) =
      .ok (.object
        [("threshold", .float threshold.number),
          ("matches", .array
            ((matchesInFull threshold (texts.map Name.ofString)).map matchEntry))]) := by
  have lettered : ∀ name ∈ givenNames (texts.map .string), name.IsLettered := by
    rw [givenNames_map_string]
    intro name mem
    exact isLettered_of_mem_map_ofString (List.mem_of_mem_filter mem)
  obtain ⟨matching, matched, foundEq⟩ := exists_matchNames_eq_ok threshold lettered
  rw [givenNames_map_string, matchesInFull_filter_not_isEmpty] at foundEq
  simp [findSimilar, matchCollection, matched, Except.mapError, foundEq, bind, Except.bind,
    pure, Except.pure]

/-- Agents are answered what a client with the same settings finds.  The answer about a list
of texts shows the client's matches in order, although empty texts are left out for it only.
A comparison is said to exceed the threshold just if the list of the two texts has a match,
and it shows what that match shows. -/
theorem answers_agree_with_client {config : Config} {client : Client}
    (new : Client.new config = .ok client) :
    Threshold.ofJson config.threshold = .ok client.threshold ∧
      (∀ texts : List String, ∃ matching answer,
        client.matchNames (texts.map Name.ofString) = .ok matching ∧
          findSimilar client.threshold (texts.map .string) = .ok answer ∧
          answer.field? "matches" = some (.array (matching.found.map fun found =>
            .object
              [("first", .string found.first.display), ("second", .string found.second.display),
                ("score", .float found.score), ("percentage", .int found.percentage),
                ("evidence", .string found.evidence)]))) ∧
      ∀ first second : String, ∃ comparison answer entries,
        compareNames client.threshold (.letters first) (.letters second) = .ok comparison ∧
          findSimilar client.threshold [.string first, .string second] = .ok answer ∧
          answer.field? "matches" = some (.array entries) ∧
          comparison.field? "exceeds_threshold" = some (.bool (!entries.isEmpty)) ∧
          ∀ entry ∈ entries, ∀ name ∈ ["first", "second", "score", "percentage", "evidence"],
            ∃ value, entry.field? name = some value ∧ comparison.field? name = some value := by
  obtain ⟨-, valid⟩ := Client.new_eq_ok_iff.mp new
  obtain ⟨read, -⟩ := Config.validate_eq_ok_iff.mp valid
  refine ⟨read, fun texts => ?_, fun first second => ?_⟩
  · have foundEq := client.found_matchNames texts
    cases matched : client.matchNames (texts.map Name.ofString) with
    | error error => simp [matched, Except.map] at foundEq
    | ok matching =>
        rw [matched] at foundEq
        simp only [Except.map, Except.ok.injEq] at foundEq
        refine ⟨matching, _, rfl, findSimilar_map_string client.threshold texts, ?_⟩
        rw [foundEq]
        rfl
  · refine ⟨_, _, _, rfl, findSimilar_map_string client.threshold [first, second], rfl, ?_⟩
    simp only [List.map_cons, List.map_nil, matchesInFull_pair]
    cases exceeds : client.threshold.isExceededBy (score first second) <;>
      simp [compareInFull?_eq, Name.ofString, Name.display, exceeds, comparisonEntry,
        compareTexts, matchEntry, Match.percentage, Json.field?]

/-- With the default settings, and an empty text among texts of which two are equal. -/
theorem answers_agree_with_client_of_default :
    Client.new {} = .ok .default ∧
      (∃ matching answer,
        Client.default.matchNames (["abcd", "", "abcd"].map Name.ofString) = .ok matching ∧
          findSimilar Client.default.threshold (["abcd", "", "abcd"].map .string) = .ok answer ∧
          answer.field? "matches" = some (.array (matching.found.map fun found =>
            .object
              [("first", .string found.first.display), ("second", .string found.second.display),
                ("score", .float found.score), ("percentage", .int found.percentage),
                ("evidence", .string found.evidence)]))) ∧
      ∃ comparison answer entries,
        compareNames Client.default.threshold (.letters "abcd") (.letters "") = .ok comparison ∧
          findSimilar Client.default.threshold [.string "abcd", .string ""] = .ok answer ∧
          answer.field? "matches" = some (.array entries) ∧
          comparison.field? "exceeds_threshold" = some (.bool (!entries.isEmpty)) := by
  obtain ⟨-, lists, twos⟩ := answers_agree_with_client Client.new_default
  obtain ⟨comparison, answer, entries, compared, answered, fieldEq, exceedsEq, -⟩ :=
    twos "abcd" ""
  exact ⟨Client.new_default, lists ["abcd", "", "abcd"],
    comparison, answer, entries, compared, answered, fieldEq, exceedsEq⟩

end AgentTools

end Lookalike
