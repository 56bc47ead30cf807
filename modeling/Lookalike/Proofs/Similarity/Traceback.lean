import Lookalike.Proofs.Similarity.Canonical
import Lookalike.Proofs.Similarity.Score

/-!
# The way back over the table makes no misstep

`traceback` compares cells only, and reads them with a default for what lies outside.  Here the
same way is gone step by step and every rule is checked on it: cells, letters and slots are read
where there are any, a letter is written only where the two texts agree and only to an empty
slot, and the way comes to an end.  No check fails, since the length that is left to be spelled
is always that of a longest common subsequence of the two beginnings that are left.
-/

namespace Lookalike

/-- What must not happen on the way back over the table. -/
inductive Misstep where
  | outsideTable
  | outsideTexts
  | differentLetters
  | outsideSlots
  | slotTaken
  | endless
  deriving DecidableEq

/-- A cell of the table. -/
def readCell (table : List (List ℕ)) (row column : ℕ) : Except Misstep ℕ :=
  match (table[row]?).bind (·[column]?) with
  | some cell => .ok cell
  | none => .error .outsideTable

/-- A letter that both texts have at a cell. -/
def readLetter (first second : List Char) (row column : ℕ) : Except Misstep Char :=
  match first[column]?, second[row]? with
  | some letter, some letter' =>
      if letter = letter' then .ok letter' else .error .differentLetters
  | _, _ => .error .outsideTexts

/-- Writes a letter to a slot of the result that is still empty. -/
def writeSlot (slots : List (Option Char)) (slot : ℕ) (letter : Char) :
    Except Misstep (List (Option Char)) :=
  match slots[slot]? with
  | some none => .ok (slots.set slot (some letter))
  | some (some _) => .error .slotTaken
  | none => .error .outsideSlots

/-- Where the way back stands: the row and the column, the length that is left to be spelled,
and the slots of the result. -/
structure WayBack where
  row : ℕ
  column : ℕ
  length : ℕ
  slots : List (Option Char)

namespace WayBack

/-- Whether nothing is left to be spelled. -/
def IsOver (way : WayBack) : Prop := way.length = 0 ∨ way.row = 0 ∨ way.column = 0

instance (way : WayBack) : Decidable way.IsOver := inferInstanceAs (Decidable (_ ∨ _))

section

variable (table : List (List ℕ)) (first second : List Char)

/-- The way up, to the left, or along a letter that is taken. -/
def move (way : WayBack) : Except Misstep WayBack := do
  let up ← readCell table (way.row - 1) way.column
  if up = way.length then return { way with row := way.row - 1 }
  let left ← readCell table way.row (way.column - 1)
  if left = way.length then return { way with column := way.column - 1 }
  let letter ← readLetter first second (way.row - 1) (way.column - 1)
  let slots ← writeSlot way.slots (way.length - 1) letter
  return { way with row := way.row - 1, column := way.column - 1, slots := slots }

/-- One step: a move, after which the length is read off the new cell. -/
def step (way : WayBack) : Except Misstep WayBack := do
  let moved ← way.move table first second
  let length ← readCell table moved.row moved.column
  return { moved with length := length }

/-- Steps until the way is over, with a bound on their number. -/
def run : ℕ → WayBack → Except Misstep WayBack
  | 0, way => if way.IsOver then .ok way else .error .endless
  | steps + 1, way =>
      if way.IsOver then .ok way
      else (way.step table first second).bind (run steps)

end

/-- The beginning of the way, at the last cell, with as many empty slots as it tells. -/
def start (first second : List Char) (length : ℕ) : WayBack where
  row := second.length
  column := first.length
  length := length
  slots := List.replicate length none

/-- The slots that the way back leaves, if it makes no misstep. -/
def slotsLeft (first second : List Char) : Except Misstep (List (Option Char)) := do
  let table := alignmentTable first second
  let length ← readCell table second.length first.length
  let final ← run table first second (first.length + second.length) (start first second length)
  return final.slots

/-! ### What is true all the way -/

/-- The state of the way once some letters are spelled: the length is that of the cell, empty
slots are left for it, and the canonical common subsequence of the beginnings that are left
comes before the letters that are spelled. -/
structure OnTrack (first second : List Char) (way : WayBack) (spelled : List Char) : Prop where
  row_le : way.row ≤ second.length
  column_le : way.column ≤ first.length
  length_eq : way.length = commonLength (first.take way.column) (second.take way.row)
  slots_eq : way.slots = List.replicate way.length none ++ spelled.map some
  spelled_eq : canonicalLetters first second =
    canonicalLetters (first.take way.column) (second.take way.row) ++ spelled

section

variable {first second spelled : List Char} {way : WayBack}

theorem readCell_alignmentTable {row column : ℕ} (rowLe : row ≤ second.length)
    (columnLe : column ≤ first.length) :
    readCell (alignmentTable first second) row column =
      .ok (commonLength (first.take column) (second.take row)) := by
  simp only [readCell, getElem?_alignmentTable rowLe, Option.bind_some, getElem?_row _ columnLe]

theorem onTrack_start (first second : List Char) :
    OnTrack first second (start first second (commonLength first second)) [] where
  row_le := Nat.le_refl _
  column_le := Nat.le_refl _
  length_eq := by simp [start]
  slots_eq := by simp [start]
  spelled_eq := by simp [start]

theorem readLetter_eq {row column : ℕ} {letter : Char} (inFirst : first[column]? = some letter)
    (inSecond : second[row]? = some letter) : readLetter first second row column = .ok letter := by
  simp [readLetter, inFirst, inSecond]

theorem writeSlot_eq (count : ℕ) (letter : Char) (written : List (Option Char)) :
    writeSlot (List.replicate (count + 1) none ++ written) count letter =
      .ok (List.replicate count none ++ some letter :: written) := by
  have slotsEq : List.replicate (count + 1) none ++ written =
      List.replicate count none ++ none :: written := by
    rw [List.replicate_succ', List.append_assoc, List.singleton_append]
  rw [slotsEq]
  simp [writeSlot]

theorem OnTrack.exists_step_up (onTrack : OnTrack first second way spelled) (rowPos : 0 < way.row)
    (columnPos : 0 < way.column)
    (free : commonLength (first.take way.column) (second.take (way.row - 1)) = way.length) :
    ∃ next, way.step (alignmentTable first second) first second = .ok next ∧
      OnTrack first second next spelled ∧ next.row + next.column < way.row + way.column := by
  rcases onTrack with ⟨rowLe, columnLe, lengthEq, slotsEq, spelledEq⟩
  have rowLe' : way.row - 1 ≤ second.length := by omega
  have upEq := readCell_alignmentTable rowLe' columnLe
  refine ⟨{ way with row := way.row - 1 }, ?_, ?_, ?_⟩
  · simp only [step, move, upEq, bind, Except.bind, if_pos free, pure, Except.pure]
    rw [free]
  · refine ⟨rowLe', columnLe, free.symm, slotsEq, ?_⟩
    rw [spelledEq, canonicalLetters_take rowPos rowLe columnPos columnLe,
      if_pos (free.trans lengthEq)]
  · show way.row - 1 + way.column < way.row + way.column
    omega

theorem OnTrack.exists_step_left (onTrack : OnTrack first second way spelled)
    (rowPos : 0 < way.row) (columnPos : 0 < way.column)
    (costs : commonLength (first.take way.column) (second.take (way.row - 1)) ≠ way.length)
    (free : commonLength (first.take (way.column - 1)) (second.take way.row) = way.length) :
    ∃ next, way.step (alignmentTable first second) first second = .ok next ∧
      OnTrack first second next spelled ∧ next.row + next.column < way.row + way.column := by
  rcases onTrack with ⟨rowLe, columnLe, lengthEq, slotsEq, spelledEq⟩
  have columnLe' : way.column - 1 ≤ first.length := by omega
  have upEq := readCell_alignmentTable (by omega : way.row - 1 ≤ second.length) columnLe
  have leftEq := readCell_alignmentTable rowLe columnLe'
  refine ⟨{ way with column := way.column - 1 }, ?_, ?_, ?_⟩
  · simp only [step, move, upEq, leftEq, bind, Except.bind, if_neg costs, if_pos free, pure,
      Except.pure]
    rw [free]
  · refine ⟨rowLe, columnLe', free.symm, slotsEq, ?_⟩
    rw [lengthEq] at costs
    rw [spelledEq, canonicalLetters_take rowPos rowLe columnPos columnLe, if_neg costs,
      if_pos (free.trans lengthEq)]
  · show way.row + (way.column - 1) < way.row + way.column
    omega

theorem OnTrack.exists_step_along (onTrack : OnTrack first second way spelled)
    (rowPos : 0 < way.row) (columnPos : 0 < way.column)
    (secondCosts : commonLength (first.take way.column) (second.take (way.row - 1)) ≠ way.length)
    (firstCosts : commonLength (first.take (way.column - 1)) (second.take way.row) ≠ way.length) :
    ∃ next letter, way.step (alignmentTable first second) first second = .ok next ∧
      OnTrack first second next (letter :: spelled) ∧
      next.row + next.column < way.row + way.column := by
  rcases onTrack with ⟨rowLe, columnLe, lengthEq, slotsEq, spelledEq⟩
  have rowLe' : way.row - 1 ≤ second.length := by omega
  have columnLe' : way.column - 1 ≤ first.length := by omega
  have upEq := readCell_alignmentTable rowLe' columnLe
  have leftEq := readCell_alignmentTable rowLe columnLe'
  have cornerEq := readCell_alignmentTable rowLe' columnLe'
  have secondCosts' := secondCosts
  have firstCosts' := firstCosts
  rw [lengthEq] at secondCosts' firstCosts'
  rcases exists_letter_of_costs rowPos rowLe columnPos columnLe secondCosts' firstCosts' with
    ⟨letter, inFirst, inSecond, longerEq⟩
  rw [← lengthEq] at longerEq
  have written : writeSlot way.slots (way.length - 1) letter =
      .ok (List.replicate (way.length - 1) none ++ (letter :: spelled).map some) := by
    rw [slotsEq, longerEq, Nat.add_sub_cancel, writeSlot_eq]
    rfl
  refine ⟨{ row := way.row - 1, column := way.column - 1, length := way.length - 1
            slots := List.replicate (way.length - 1) none ++ (letter :: spelled).map some },
    letter, ?_, ⟨rowLe', columnLe', ?_, rfl, ?_⟩, ?_⟩
  · simp only [step, move, upEq, leftEq, bind, Except.bind, if_neg secondCosts, if_neg firstCosts,
      readLetter_eq inFirst inSecond, written, pure, Except.pure, cornerEq]
    rw [longerEq, Nat.add_sub_cancel]
  · show way.length - 1 = commonLength (first.take (way.column - 1)) (second.take (way.row - 1))
    omega
  · rw [spelledEq, canonicalLetters_take rowPos rowLe columnPos columnLe, if_neg secondCosts',
      if_neg firstCosts', inSecond]
    simp
  · show way.row - 1 + (way.column - 1) < way.row + way.column
    omega

theorem OnTrack.exists_step (onTrack : OnTrack first second way spelled)
    (notOver : ¬way.IsOver) :
    ∃ next spelled', way.step (alignmentTable first second) first second = .ok next ∧
      OnTrack first second next spelled' ∧ next.row + next.column < way.row + way.column := by
  simp only [IsOver, not_or, ← Nat.pos_iff_ne_zero] at notOver
  rcases notOver with ⟨-, rowPos, columnPos⟩
  by_cases secondFree :
      commonLength (first.take way.column) (second.take (way.row - 1)) = way.length
  · rcases onTrack.exists_step_up rowPos columnPos secondFree with ⟨next, moved⟩
    exact ⟨next, spelled, moved⟩
  by_cases firstFree :
      commonLength (first.take (way.column - 1)) (second.take way.row) = way.length
  · rcases onTrack.exists_step_left rowPos columnPos secondFree firstFree with ⟨next, moved⟩
    exact ⟨next, spelled, moved⟩
  · rcases onTrack.exists_step_along rowPos columnPos secondFree firstFree with
      ⟨next, letter, moved⟩
    exact ⟨next, letter :: spelled, moved⟩

theorem OnTrack.exists_run (onTrack : OnTrack first second way spelled) {steps : ℕ}
    (enough : way.row + way.column ≤ steps) :
    ∃ final spelled', run (alignmentTable first second) first second steps way = .ok final ∧
      OnTrack first second final spelled' ∧ final.IsOver := by
  induction steps generalizing way spelled with
  | zero =>
      have ended : way.IsOver := Or.inr (Or.inl (by omega))
      exact ⟨way, spelled, by rw [run, if_pos ended], onTrack, ended⟩
  | succ steps ih =>
      by_cases ended : way.IsOver
      · exact ⟨way, spelled, by rw [run, if_pos ended], onTrack, ended⟩
      · rcases onTrack.exists_step ended with ⟨next, spelled', stepEq, onTrack', nearer⟩
        rcases ih onTrack' (by omega) with ⟨final, spelled'', runEq, onTrack'', ended'⟩
        refine ⟨final, spelled'', ?_, onTrack'', ended'⟩
        rw [run, if_neg ended, stepEq]
        exact runEq

theorem OnTrack.slots_of_isOver (onTrack : OnTrack first second way spelled)
    (ended : way.IsOver) : way.slots = (canonicalLetters first second).map some := by
  have zero : commonLength (first.take way.column) (second.take way.row) = 0 := by
    rcases ended with lengthZero | rowZero | columnZero
    · rw [← onTrack.length_eq, lengthZero]
    · rw [rowZero, List.take_zero, commonLength_nil_right]
    · rw [columnZero, List.take_zero, commonLength_nil_left]
  rw [onTrack.slots_eq, onTrack.spelled_eq, onTrack.length_eq, zero,
    canonicalLetters_of_commonLength_eq_zero zero]
  rfl

theorem slotsLeft_eq (first second : List Char) :
    slotsLeft first second = .ok ((commonLetters first second).map some) := by
  have enough : (start first second (commonLength first second)).row +
      (start first second (commonLength first second)).column ≤ first.length + second.length :=
    (Nat.add_comm _ _).le
  rcases (onTrack_start first second).exists_run enough with ⟨final, spelled, runEq, onTrack, ended⟩
  have cellEq := readCell_alignmentTable (Nat.le_refl second.length) (Nat.le_refl first.length)
  rw [List.take_length, List.take_length] at cellEq
  simp only [slotsLeft, cellEq, bind, Except.bind, runEq, pure, Except.pure]
  rw [onTrack.slots_of_isOver ended, commonLetters_eq]

end

end WayBack

/-- The way back over the table makes no misstep and fills every slot once, and what it spells
is a longest common subsequence of the two texts, whose length tells their score. -/
theorem way_back_spells_longest_common (first second : String) :
    WayBack.slotsLeft first.toList second.toList =
        .ok ((commonSubsequence first second).toList.map some) ∧
      (commonSubsequence first second).toList.Sublist first.toList ∧
      (commonSubsequence first second).toList.Sublist second.toList ∧
      (∀ common : List Char, common.Sublist first.toList → common.Sublist second.toList →
        common.length ≤ (commonSubsequence first second).length) ∧
      (first ≠ "" → second ≠ "" →
        score first second =
          .ofRatio false (commonSubsequence first second).length
            (max first.length second.length)) := by
  have lettersEq : (commonSubsequence first second).toList =
      canonicalLetters first.toList second.toList := by
    rw [commonSubsequence, String.toList_ofList, commonLetters_eq]
  have lengthEq : (commonSubsequence first second).length =
      commonLength first.toList second.toList := by
    rw [← String.length_toList, lettersEq, length_canonicalLetters]
  refine ⟨?_, ?_, ?_, ?_, ?_⟩
  · rw [WayBack.slotsLeft_eq, lettersEq, commonLetters_eq]
  · rw [lettersEq]
    exact canonicalLetters_sublist_first _ _
  · rw [lettersEq]
    exact canonicalLetters_sublist_second _ _
  · intro common inFirst inSecond
    rw [lengthEq]
    exact length_le_commonLength inFirst inSecond
  · intro firstNe secondNe
    rw [score_eq, if_neg (by simp [firstNe, secondNe]), lengthEq]

end Lookalike
