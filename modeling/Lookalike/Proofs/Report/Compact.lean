import Mathlib
import Lookalike.Proofs.Text.Namable
import Lookalike.Report.Compact
import Lookalike.Report.Percentage

/-!
# Reading compact reports back

A line of a compact report begins with a place that may contain anything but a line break, so it
is read from its end.  The words behind the place contain no space, and so the last four spaces of
a line are those of its form.  What stands before them is the first name, and before that the
place with its colon, unless there is none.
-/

namespace Lookalike

namespace Compact

/-- What a line tells of a match. -/
structure Entry where
  location : String
  first : String
  second : String
  percentage : ℤ
  evidence : String
  deriving DecidableEq

/-- What is told of a match in a scope. -/
def entryOf (scope : Provenance) (found : Match) : Entry where
  location := matchLocation scope found
  first := found.first.display
  second := found.second.display
  percentage := found.percentage
  evidence := found.evidence

/-- What is told of the matches of a result, in the order of its reports. -/
def entries (result : CheckResult) : List Entry :=
  result.reports.flatMap fun report => report.matched.map (entryOf report.scope)

/-! ### Reading -/

/-- What a line tells, read from its last word to its first. -/
def readLine? (line : List Char) : Option Entry :=
  match (line.splitOn ' ').reverse with
  | evidence :: percentage :: second :: _ :: first :: place =>
      (String.ofList ((percentage.drop 1).dropLast.dropLast)).toInt?.map fun number =>
        { location := String.ofList ([' '].intercalate place.reverse).dropLast
          first := String.ofList first
          second := String.ofList second
          percentage := number
          evidence := String.ofList ((evidence.drop "common=\"".length).dropLast) }
  | _ => none

/-- What a compact report tells. -/
def read (report : String) : List Entry :=
  if report = "" then [] else (report.toList.splitOn '\n').filterMap readLine?

/-! ### Lines -/

namespace Entry

/-- The line that tells an entry. -/
def line (entry : Entry) : String :=
  (if entry.location.isEmpty then "" else entry.location ++ ": ") ++ entry.first ++ " ~ " ++
    entry.second ++ " (" ++ toString entry.percentage ++ "%) common=\"" ++ entry.evidence ++ "\""

/-- Whether a line break is nowhere in the place, and the names and the evidence are words. -/
structure IsLegible (entry : Entry) : Prop where
  location : '\n' ∉ entry.location.toList
  first : IsWord entry.first
  second : IsWord entry.second
  evidence : IsWord entry.evidence

end Entry

/-- Whether a result can be told from its compact report: each entry is legible, and each score has
a percentage. -/
structure IsReadable (result : CheckResult) : Prop where
  legible : ∀ entry ∈ entries result, entry.IsLegible
  percentages : ∀ found ∈ result.allMatched, percentageFault? found.score = none

end Compact

section

variable {text : String} {letter : Char}

theorem IsWord.not_mem (word : IsWord text) (blank : isBlank letter = true) :
    letter ∉ text.toList := by
  intro mem
  have isLetter := word letter mem
  rw [isWordLetter, blank] at isLetter
  exact Bool.noConfusion isLetter

theorem isDigit_or_minus_of_mem_repr {number : ℤ} (mem : letter ∈ number.repr.toList) :
    letter.isDigit = true ∨ letter = '-' := by
  have digits (natural : ℕ) (mem : letter ∈ natural.repr.toList) : letter.isDigit = true := by
    rw [Nat.toList_repr] at mem
    exact Nat.isDigit_of_mem_toDigits (by decide) (by decide) mem
  cases number with
  | ofNat natural => exact Or.inl (digits natural mem)
  | negSucc natural =>
      rw [Int.repr, String.toList_append, List.mem_append] at mem
      rcases mem with mem | mem
      · exact Or.inr (by simpa using mem)
      · exact Or.inl (digits (natural + 1) mem)

theorem isWord_repr (number : ℤ) : IsWord number.repr := by
  intro letter mem
  rcases isDigit_or_minus_of_mem_repr mem with digit | rfl
  · have bounds : 48 ≤ letter.toNat ∧ letter.toNat ≤ 57 := by
      simpa [Char.isDigit, UInt32.le_iff_toNat_le] using digit
    exact isWordLetter_of_namable
      (isUnnamable_eq_false_of_range (show isNamableRange (48, 57) = true by decide)
        bounds.1 bounds.2)
  · decide

end

namespace Compact

/-! ### Words of a line -/

namespace Entry

variable {entry : Entry}

/-- The words before the first name. -/
def placeWords (entry : Entry) : List (List Char) :=
  if entry.location.isEmpty then [] else (entry.location ++ ":").toList.splitOn ' '

def percentageWord (entry : Entry) : String := "(" ++ toString entry.percentage ++ "%)"

def evidenceWord (entry : Entry) : String := "common=\"" ++ entry.evidence ++ "\""

theorem splitOn_append_word (text : String) {word : String} (noSpace : ' ' ∉ word.toList) :
    (text ++ " " ++ word).toList.splitOn ' ' = text.toList.splitOn ' ' ++ [word.toList] := by
  have lettersEq : (text ++ " " ++ word).toList = text.toList ++ ' ' :: word.toList := by simp
  rw [lettersEq, List.splitOn_append_cons_self, List.splitOn_eq_singleton noSpace]

theorem line_eq (entry : Entry) :
    entry.line =
      (if entry.location.isEmpty then "" else entry.location ++ ":" ++ " ") ++ entry.first ++
        " " ++ "~" ++ " " ++ entry.second ++ " " ++ entry.percentageWord ++ " " ++
        entry.evidenceWord := by
  rw [line, percentageWord, evidenceWord]
  split_ifs <;> simp [String.append_assoc, ← String.toList_inj]

/-- The words of a line, told from its spaces. -/
theorem splitOn_line (legible : entry.IsLegible) :
    entry.line.toList.splitOn ' ' =
      entry.placeWords ++ [entry.first.toList, ['~'], entry.second.toList,
        entry.percentageWord.toList, entry.evidenceWord.toList] := by
  have noSpace {text : String} (word : IsWord text) : ' ' ∉ text.toList := word.not_mem (by decide)
  have percentage : ' ' ∉ entry.percentageWord.toList := by
    simp [percentageWord, noSpace (isWord_repr entry.percentage)]
  have evidence : ' ' ∉ entry.evidenceWord.toList := by
    simp [evidenceWord, noSpace legible.evidence]
  have beginning :
      ((if entry.location.isEmpty then "" else entry.location ++ ":" ++ " ") ++
        entry.first).toList.splitOn ' ' = entry.placeWords ++ [entry.first.toList] := by
    rw [placeWords]
    split_ifs
    · rw [String.empty_append, List.splitOn_eq_singleton (noSpace legible.first), List.nil_append]
    · exact splitOn_append_word _ (noSpace legible.first)
  rw [line_eq, splitOn_append_word _ evidence, splitOn_append_word _ percentage,
    splitOn_append_word _ (noSpace legible.second), splitOn_append_word _ (by decide), beginning]
  simp

/-- The place is what its words were split from. -/
theorem dropLast_intercalate_placeWords (entry : Entry) :
    String.ofList ([' '].intercalate entry.placeWords).dropLast = entry.location := by
  rw [placeWords]
  split_ifs with empty
  · rw [String.isEmpty_iff.mp empty]
    rfl
  · have lettersEq : (entry.location ++ ":").toList = entry.location.toList ++ [':'] := by simp
    rw [List.intercalate_splitOn, lettersEq, List.dropLast_concat, String.ofList_toList]

-- That an integer is read back from its digits is known to the standard library, in a part of it
-- that only all of Mathlib brings along.
/-- A line is read back. -/
theorem readLine?_line (legible : entry.IsLegible) :
    readLine? entry.line.toList = some entry := by
  have percentageEq : (entry.percentageWord.toList.drop 1).dropLast.dropLast =
      (toString entry.percentage).toList := by
    have lettersEq : entry.percentageWord.toList =
        '(' :: ((toString entry.percentage).toList ++ ['%'] ++ [')']) := by
      simp [percentageWord]
    rw [lettersEq, List.drop_one, List.tail_cons, List.dropLast_concat, List.dropLast_concat]
  have evidenceEq : (entry.evidenceWord.toList.drop "common=\"".length).dropLast =
      entry.evidence.toList := by
    have lettersEq : entry.evidenceWord.toList =
        "common=\"".toList ++ (entry.evidence.toList ++ ['"']) := by
      simp [evidenceWord]
    rw [lettersEq, ← String.length_toList, List.drop_left, List.dropLast_concat]
  rw [readLine?, splitOn_line legible, List.reverse_append]
  simp only [List.reverse_cons, List.reverse_nil, List.nil_append, List.cons_append,
    List.reverse_reverse, percentageEq, evidenceEq, String.ofList_toList,
    dropLast_intercalate_placeWords, Int.toString_eq_repr, Int.toInt?_repr, Option.map_some]

end Entry

/-! ### Lines of a report -/

theorem newline_not_mem_line {entry : Entry} (legible : entry.IsLegible) :
    '\n' ∉ entry.line.toList := by
  have noBreak {text : String} (word : IsWord text) : '\n' ∉ text.toList :=
    word.not_mem (by decide)
  rw [Entry.line]
  split_ifs <;>
    simp [legible.location, noBreak legible.first, noBreak legible.second,
      noBreak legible.evidence, noBreak (isWord_repr entry.percentage)]

theorem render_eq (result : CheckResult) :
    render result = "\n".intercalate ((entries result).map Entry.line) := by
  rw [render, lines, entries, List.map_flatMap]
  simp only [List.map_map]
  rfl

section

variable {result : CheckResult}

theorem render_of_no_entries (empty : entries result = []) : render result = "" := by
  rw [render_eq, empty]
  rfl

/-- The lines of a report are those of the entries. -/
theorem splitOn_render (readable : IsReadable result) (nonempty : entries result ≠ []) :
    (render result).toList.splitOn '\n' =
      (entries result).map fun entry => entry.line.toList := by
  have lettersEq : (render result).toList =
      ['\n'].intercalate ((entries result).map fun entry => entry.line.toList) := by
    rw [render_eq, String.toList_intercalate, List.map_map]
    rfl
  rw [lettersEq, List.splitOn_intercalate]
  · intro line mem
    rcases List.mem_map.mp mem with ⟨entry, entryMem, rfl⟩
    exact newline_not_mem_line (readable.legible entry entryMem)
  · simpa using nonempty

theorem render_ne_empty (readable : IsReadable result) (nonempty : entries result ≠ []) :
    render result ≠ "" := by
  intro empty
  have linesEq := splitOn_render readable nonempty
  rw [empty, String.toList_empty, List.splitOn_nil] at linesEq
  rcases List.exists_cons_of_ne_nil nonempty with ⟨entry, rest, entriesEq⟩
  have lineEq : [] = entry.line.toList := by
    rw [entriesEq, List.map_cons] at linesEq
    exact (List.cons.inj linesEq).1
  simp [Entry.line] at lineEq

/-- A compact report is read back. -/
theorem read_render (readable : IsReadable result) : read (render result) = entries result := by
  by_cases empty : entries result = []
  · rw [render_of_no_entries empty, empty]
    rfl
  · rw [read, if_neg (render_ne_empty readable empty), splitOn_render readable empty,
      List.filterMap_map]
    calc (entries result).filterMap (readLine? ∘ fun entry => entry.line.toList)
        = (entries result).filterMap some := by
          apply List.filterMap_congr
          intro entry mem
          rw [Function.comp_apply, Entry.readLine?_line (readable.legible entry mem)]
      _ = entries result := List.filterMap_some

theorem reportBy_render (readable : IsReadable result) :
    result.reportBy render = .ok (render result) := by
  have none_eq : result.allMatched.findSome? (fun found => percentageFault? found.score) = none :=
    List.findSome?_eq_none_iff.mpr readable.percentages
  rw [CheckResult.reportBy, none_eq]

end

end Compact

end Lookalike
