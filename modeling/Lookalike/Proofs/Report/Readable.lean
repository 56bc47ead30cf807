import Lookalike.Proofs.Check.Propagation
import Lookalike.Proofs.Harvest.Names
import Lookalike.Proofs.Number.Percentage
import Lookalike.Proofs.Report.Compact
import Lookalike.Proofs.Similarity.Canonical
import Lookalike.Proofs.Similarity.LengthTest

/-!
# Results that can be read back

What a check finds can be read back from its compact report unless a path has a line break in it:
the names that it matches are names of a source and so words, what two words have in common is a
word, and every score of two texts has a percentage.  A result need not come from a check, and then
its scores may be too large for that.
-/

namespace Lookalike

open Source

/-! ### Matches of a check -/

theorem percentageFault?_ofRatio {numerator denominator : ℕ} (positive : 0 < denominator)
    (le : numerator ≤ denominator) :
    percentageFault? (.ofRatio false numerator denominator) = none := by
  rcases Binary64.exists_scale_hundred_eq (Binary64.rounded_nonneg numerator denominator)
    (Binary64.rounded_le_one positive le) with ⟨product, productEq, -, -⟩
  rw [percentageFault?, Binary64.ofRatio_eq_finite_rounded positive le, productEq]

/-- Every score of two texts has a percentage. -/
theorem percentageFault?_score (first second : String) :
    percentageFault? (score first second) = none := by
  by_cases empty : first.length = 0 ∨ second.length = 0
  · rw [score_of_empty empty]
    decide +kernel
  · rcases not_or.mp empty with ⟨firstNe, secondNe⟩
    rcases exists_score_eq_ofRatio firstNe secondNe with ⟨common, commonLe, scoreEq⟩
    rw [scoreEq]
    exact percentageFault?_ofRatio (by omega) (by omega)

/-- What a word has in common with another text is a word. -/
theorem IsWord.commonSubsequence {first : String} (word : IsWord first) (second : String) :
    IsWord (commonSubsequence first second) := by
  intro letter mem
  rw [Lookalike.commonSubsequence, String.toList_ofList, commonLetters_eq] at mem
  exact word letter ((canonicalLetters_sublist_first _ _).subset mem)

/-- A match in a harvested scope is one of two of its names. -/
theorem exists_bindings_of_mem_matched {threshold : Threshold} {scope : HarvestedScope}
    {found : Match} (mem : found ∈ scope.matched threshold) :
    ∃ first ∈ scope.bindings, ∃ second ∈ scope.bindings,
      found =
        { first := first.toName
          second := second.toName
          score := score first.text second.text
          evidence := commonSubsequence first.text second.text } := by
  rw [HarvestedScope.matched, matchesInFull_eq_filterMap_pairs] at mem
  rcases List.mem_filterMap.mp mem with ⟨pair, pairMem, foundEq⟩
  rcases mem_of_mem_pairs pairMem with ⟨firstMem, secondMem⟩
  rcases List.mem_map.mp firstMem with ⟨first, firstMem, firstEq⟩
  rcases List.mem_map.mp secondMem with ⟨second, secondMem, secondEq⟩
  rw [compareInFull?_eq, ← firstEq, ← secondEq] at foundEq
  split_ifs at foundEq
  exact ⟨first, firstMem, second, secondMem, (Option.some.inj foundEq).symm⟩

/-- A scope is reported with its matches. -/
theorem matched_of_report?_matcher {threshold : Threshold} {failing : List String}
    {scope : HarvestedScope} {report : ScopeReport}
    (reported : (threshold.matcher failing).report? scope = some report) :
    report.matched = scope.matched threshold := by
  rw [threshold.matcher_eq_failingOn, ScopeMatcher.report?_failingOn,
    threshold.report?_matcher] at reported
  split_ifs at reported
  rw [← Option.some.inj reported]

theorem exists_scope_of_mem_allMatched {check : Check} {tree : FileTree} {failing : List String}
    {found : Match} (mem : found ∈ (check.result tree failing).allMatched) :
    ∃ scope : HarvestedScope, WellNamed scope ∧ found ∈ scope.matched check.threshold := by
  rcases List.mem_flatMap.mp mem with ⟨report, reportMem, foundMem⟩
  rcases List.mem_filterMap.mp reportMem with ⟨scope, scopeMem, reported⟩
  rcases List.mem_flatMap.mp scopeMem with ⟨harvest, harvestMem, scopeMem⟩
  rcases List.mem_map.mp harvestMem with ⟨file, -, rfl⟩
  rw [matched_of_report?_matcher reported] at foundMem
  exact ⟨scope, wellNamed_scopes_harvestFile _ tree file scope scopeMem, foundMem⟩

/-- The names that a check matches are words, and so is what they have in common. -/
theorem Check.isWord_of_mem_allMatched {check : Check} {tree : FileTree} {failing : List String}
    {found : Match} (mem : found ∈ (check.result tree failing).allMatched) :
    IsWord found.first.display ∧ IsWord found.second.display ∧ IsWord found.evidence ∧
      percentageFault? found.score = none := by
  rcases exists_scope_of_mem_allMatched mem with ⟨scope, named, foundMem⟩
  rcases exists_bindings_of_mem_matched foundMem with ⟨first, firstMem, second, secondMem, rfl⟩
  have firstWord : IsWord first.text := IsName.isWord (named first firstMem)
  have secondWord : IsWord second.text := IsName.isWord (named second secondMem)
  exact ⟨firstWord, secondWord, firstWord.commonSubsequence second.text,
    percentageFault?_score first.text second.text⟩

namespace Compact

/-- The result of a check can be read back unless a place has a line break in it. -/
theorem isReadable_result_iff (check : Check) (tree : FileTree) (failing : List String) :
    IsReadable (check.result tree failing) ↔
      ∀ entry ∈ entries (check.result tree failing), '\n' ∉ entry.location.toList := by
  constructor
  · intro readable entry mem
    exact (readable.legible entry mem).location
  · intro noBreak
    constructor
    · intro entry mem
      rcases List.mem_flatMap.mp mem with ⟨report, reportMem, entryMem⟩
      rcases List.mem_map.mp entryMem with ⟨found, foundMem, rfl⟩
      have foundMem' : found ∈ (check.result tree failing).allMatched :=
        List.mem_flatMap.mpr ⟨report, reportMem, foundMem⟩
      rcases Check.isWord_of_mem_allMatched foundMem' with ⟨first, second, evidence, -⟩
      exact
        { location := noBreak _ mem
          first := first
          second := second
          evidence := evidence }
    · intro found mem
      exact (Check.isWord_of_mem_allMatched mem).2.2.2

/-- A result that can be told from its compact report has one line for each match, in the order of
its reports, and what the lines tell is read back from the report alone.  So two results with the
same report tell the same.  The result of a check can be told from its report unless a place has a
line break in it. -/
theorem report_tells_entries (result : CheckResult) (readable : IsReadable result) :
    (∃ report, result.reportBy render = .ok report ∧
      (entries result = [] → report = "") ∧
      (entries result ≠ [] →
        report.toList.splitOn '\n' = (entries result).map fun entry => entry.line.toList) ∧
      read report = entries result ∧
      ∀ other, IsReadable other → other.reportBy render = .ok report →
        entries other = entries result) ∧
      ∀ (check : Check) (tree : FileTree) (failing : List String) (finished : Finished),
        check.run tree failing = .ok finished →
          (IsReadable finished.result ↔
            ∀ entry ∈ entries finished.result, '\n' ∉ entry.location.toList) := by
  refine ⟨⟨_, reportBy_render readable, render_of_no_entries, splitOn_render readable,
    read_render readable, ?_⟩, ?_⟩
  · intro other readable' sameReport
    rw [reportBy_render readable'] at sameReport
    rw [← read_render readable', Except.ok.inj sameReport, read_render readable]
  · intro check tree failing finished ran
    rw [Check.result_of_run ran]
    exact isReadable_result_iff check tree failing

/-- A result with one match of a place that looks like a line itself. -/
def lineLikePlace : CheckResult where
  reports :=
    [{  scope := .value (.string "module")
        matched :=
          [{  first :=
                { text := .letters "ab"
                  origin := .value (.string "a b ~ c (5%) common=\"d\".py:3") }
              second := .ofString "ac"
              score := .finite (1 / 2)
              evidence := "a" }] }]

theorem report_tells_entries_of_lineLikePlace :
    IsReadable lineLikePlace ∧
      lineLikePlace.reportBy render =
        .ok "a b ~ c (5%) common=\"d\".py:3: ab ~ ac (50%) common=\"a\"" ∧
      entries lineLikePlace =
        [{  location := "a b ~ c (5%) common=\"d\".py:3"
            first := "ab"
            second := "ac"
            percentage := 50
            evidence := "a" }] ∧
      ∃ report, lineLikePlace.reportBy render = .ok report ∧
        read report = entries lineLikePlace := by
  have entriesEq : entries lineLikePlace =
      [{  location := "a b ~ c (5%) common=\"d\".py:3"
          first := "ab"
          second := "ac"
          percentage := 50
          evidence := "a" }] := by
    decide +kernel
  have readable : IsReadable lineLikePlace := by
    constructor
    · intro entry mem
      rw [entriesEq] at mem
      rw [List.mem_singleton.mp mem]
      constructor <;> simp [IsWord, isWordLetter, isBlank]
    · decide +kernel
  rcases report_tells_entries lineLikePlace readable with
    ⟨⟨report, reportEq, -, -, readEq, -⟩, -⟩
  exact ⟨readable, by decide +kernel, entriesEq, report, reportEq, readEq⟩

/-- A result with a score whose product with a hundred is past the greatest number. -/
def hugeScore : CheckResult where
  reports :=
    [{  scope := .unknown
        matched :=
          [{  first := .ofString "a"
              second := .ofString "b"
              score := .finite (2 ^ 1020)
              evidence := "" }] }]

/-- A score need not be infinite for the report to fail. -/
theorem no_report_of_hugeScore :
    (∀ entry ∈ entries hugeScore, entry.IsLegible) ∧
      (∀ found ∈ hugeScore.allMatched, ∃ value, found.score = .finite value ∧
        Binary64.IsRepresentable value) ∧
      hugeScore.reportBy render = .error .infinite := by
  refine ⟨?_, ?_, by decide +kernel⟩
  · intro entry mem
    rw [List.mem_singleton.mp mem]
    exact
      { location := by decide +kernel
        first := (by simp [IsWord, isWordLetter, isBlank] : IsWord "a")
        second := (by simp [IsWord, isWordLetter, isBlank] : IsWord "b")
        evidence := (by simp [IsWord] : IsWord "") }
  · intro found mem
    rw [List.mem_singleton.mp mem]
    refine ⟨2 ^ 1020, rfl, 2 ^ 50, 970, by decide, by decide, by decide, ?_⟩
    rw [Int.cast_pow, Int.cast_ofNat, ← zpow_natCast, ← zpow_natCast, ← zpow_add₀ two_ne_zero]
    rfl

end Compact

end Lookalike
