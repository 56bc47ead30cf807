import Lookalike.Proofs.Similarity.Table

/-!
# The common subsequence that is shown

Among all longest common subsequences one is told by recursion on the ends of the two texts:
the last letter of the second text is dropped if that costs nothing, else that of the first
text if that costs nothing, else both last letters are the same and are taken.  It is a longest
common subsequence, and the way back over the table spells it, since the cells say what dropping
a letter costs.
-/

namespace Lookalike

/-- The longest common subsequence for which last letters are dropped where that costs
nothing, in the second text rather than in the first. -/
def canonicalLetters (first second : List Char) : List Char :=
  if first = [] ∨ second = [] then []
  else if commonLength first second.dropLast = commonLength first second then
    canonicalLetters first second.dropLast
  else if commonLength first.dropLast second = commonLength first second then
    canonicalLetters first.dropLast second
  else canonicalLetters first.dropLast second.dropLast ++ second.getLast?.toList
termination_by first.length + second.length
decreasing_by
  all_goals
    have firstPos := List.length_pos_iff.mpr (not_or.mp ‹¬(first = [] ∨ second = [])›).1
    have secondPos := List.length_pos_iff.mpr (not_or.mp ‹¬(first = [] ∨ second = [])›).2
    simp only [List.length_dropLast]
    omega

/-- Where dropping either last letter costs something, both are the same, and the length goes
down by one when both are dropped. -/
theorem exists_last_letter {first second : List Char} (notEmpty : ¬(first = [] ∨ second = []))
    (secondCosts : commonLength first second.dropLast ≠ commonLength first second)
    (firstCosts : commonLength first.dropLast second ≠ commonLength first second) :
    ∃ letter, first = first.dropLast ++ [letter] ∧ second = second.dropLast ++ [letter] ∧
      second.getLast?.toList = [letter] ∧
      commonLength first second = commonLength first.dropLast second.dropLast + 1 := by
  rcases not_or.mp notEmpty with ⟨firstNe, secondNe⟩
  have firstEq := List.dropLast_append_getLast firstNe
  have secondEq := List.dropLast_append_getLast secondNe
  generalize first.dropLast = beforeFirst at *
  generalize second.dropLast = beforeSecond at *
  generalize first.getLast firstNe = letter at *
  generalize second.getLast secondNe = letter' at *
  subst firstEq secondEq
  have same : letter = letter' := by
    by_contra different
    rw [commonLength_concat_of_ne _ _ different] at secondCosts firstCosts
    omega
  subst same
  exact ⟨letter, rfl, rfl, by simp, commonLength_concat_self _ _ _⟩

theorem canonicalLetters_sublist_first (first second : List Char) :
    (canonicalLetters first second).Sublist first := by
  fun_induction canonicalLetters first second with
  | case1 first second empty => exact List.nil_sublist first
  | case2 first second notEmpty secondFree ih => exact ih
  | case3 first second notEmpty secondCosts firstFree ih =>
      exact ih.trans first.dropLast_sublist
  | case4 first second notEmpty secondCosts firstCosts ih =>
      rcases exists_last_letter notEmpty secondCosts firstCosts with
        ⟨letter, firstEq, -, lastEq, -⟩
      rw [lastEq]
      conv_rhs => rw [firstEq]
      exact (List.append_sublist_append_right [letter]).mpr ih

theorem canonicalLetters_sublist_second (first second : List Char) :
    (canonicalLetters first second).Sublist second := by
  fun_induction canonicalLetters first second with
  | case1 first second empty => exact List.nil_sublist second
  | case2 first second notEmpty secondFree ih => exact ih.trans second.dropLast_sublist
  | case3 first second notEmpty secondCosts firstFree ih => exact ih
  | case4 first second notEmpty secondCosts firstCosts ih =>
      rcases exists_last_letter notEmpty secondCosts firstCosts with
        ⟨letter, -, secondEq, lastEq, -⟩
      rw [lastEq]
      conv_rhs => rw [secondEq]
      exact (List.append_sublist_append_right [letter]).mpr ih

theorem length_canonicalLetters (first second : List Char) :
    (canonicalLetters first second).length = commonLength first second := by
  fun_induction canonicalLetters first second with
  | case1 first second empty => rcases empty with rfl | rfl <;> simp
  | case2 first second notEmpty secondFree ih => rw [ih, secondFree]
  | case3 first second notEmpty secondCosts firstFree ih => rw [ih, firstFree]
  | case4 first second notEmpty secondCosts firstCosts ih =>
      rcases exists_last_letter notEmpty secondCosts firstCosts with
        ⟨letter, -, -, lastEq, lengthEq⟩
      rw [List.length_append, ih, lengthEq, lastEq, List.length_singleton]

theorem canonicalLetters_of_commonLength_eq_zero {first second : List Char}
    (zero : commonLength first second = 0) : canonicalLetters first second = [] := by
  rw [← List.length_eq_zero_iff, length_canonicalLetters, zero]

/-! ### The way back over the table -/

section

variable {letters : List Char} {count : ℕ}

theorem dropLast_take_of_le (le : count ≤ letters.length) :
    (letters.take count).dropLast = letters.take (count - 1) := by
  rw [List.dropLast_eq_take, List.take_take, List.length_take]
  congr 1
  omega

theorem getLast?_take_of_le (pos : 0 < count) (le : count ≤ letters.length) :
    (letters.take count).getLast? = letters[count - 1]? := by
  rw [List.getLast?_eq_getElem?, List.length_take, Nat.min_eq_left le, List.getElem?_take,
    if_pos (by omega)]

end

section

variable {first second : List Char} {row column : ℕ}

theorem take_ne_nil (rowPos : 0 < row) (rowLe : row ≤ second.length) (columnPos : 0 < column)
    (columnLe : column ≤ first.length) : ¬(first.take column = [] ∨ second.take row = []) := by
  simp only [← List.length_eq_zero_iff, List.length_take]
  omega

theorem canonicalLetters_take (rowPos : 0 < row) (rowLe : row ≤ second.length)
    (columnPos : 0 < column) (columnLe : column ≤ first.length) :
    canonicalLetters (first.take column) (second.take row) =
      if commonLength (first.take column) (second.take (row - 1)) =
          commonLength (first.take column) (second.take row) then
        canonicalLetters (first.take column) (second.take (row - 1))
      else if commonLength (first.take (column - 1)) (second.take row) =
          commonLength (first.take column) (second.take row) then
        canonicalLetters (first.take (column - 1)) (second.take row)
      else
        canonicalLetters (first.take (column - 1)) (second.take (row - 1)) ++
          (second[row - 1]?).toList := by
  rw [canonicalLetters, if_neg (take_ne_nil rowPos rowLe columnPos columnLe),
    dropLast_take_of_le rowLe, dropLast_take_of_le columnLe, getLast?_take_of_le rowPos rowLe]

theorem exists_letter_of_costs (rowPos : 0 < row) (rowLe : row ≤ second.length)
    (columnPos : 0 < column) (columnLe : column ≤ first.length)
    (secondCosts : commonLength (first.take column) (second.take (row - 1)) ≠
      commonLength (first.take column) (second.take row))
    (firstCosts : commonLength (first.take (column - 1)) (second.take row) ≠
      commonLength (first.take column) (second.take row)) :
    ∃ letter, first[column - 1]? = some letter ∧ second[row - 1]? = some letter ∧
      commonLength (first.take column) (second.take row) =
        commonLength (first.take (column - 1)) (second.take (row - 1)) + 1 := by
  rw [← dropLast_take_of_le rowLe] at secondCosts
  rw [← dropLast_take_of_le columnLe] at firstCosts
  obtain ⟨letter, firstEq, secondEq, -, lengthEq⟩ :=
    exists_last_letter (take_ne_nil rowPos rowLe columnPos columnLe) secondCosts firstCosts
  rw [dropLast_take_of_le rowLe, dropLast_take_of_le columnLe] at lengthEq
  refine ⟨letter, ?_, ?_, lengthEq⟩
  · rw [← getLast?_take_of_le columnPos columnLe, firstEq, List.getLast?_concat]
  · rw [← getLast?_take_of_le rowPos rowLe, secondEq, List.getLast?_concat]

end

theorem traceback_eq {first second : List Char} {grid : Grid}
    (cells : ∀ {row column : ℕ}, row ≤ second.length → column ≤ first.length →
      grid.cell row column = commonLength (first.take column) (second.take row))
    {row column length : ℕ} (rowLe : row ≤ second.length) (columnLe : column ≤ first.length)
    (lengthEq : length = commonLength (first.take column) (second.take row))
    (found : List Char) :
    traceback grid second.toArray row column length found =
      canonicalLetters (first.take column) (second.take row) ++ found := by
  fun_induction traceback grid second.toArray row column length found with
  | case1 row column found inside ih =>
      have cellEq := cells (by omega : row - 1 ≤ second.length) columnLe
      rw [ih (by omega) columnLe cellEq, canonicalLetters_take inside.2.1 rowLe inside.2.2 columnLe,
        if_pos (cellEq.symm.trans lengthEq)]
  | case2 row column found inside secondCosts ih =>
      have upEq := cells (by omega : row - 1 ≤ second.length) columnLe
      have cellEq := cells rowLe (by omega : column - 1 ≤ first.length)
      rw [upEq, lengthEq] at secondCosts
      rw [ih rowLe (by omega) cellEq,
        canonicalLetters_take inside.2.1 rowLe inside.2.2 columnLe, if_neg secondCosts,
        if_pos (cellEq.symm.trans lengthEq)]
  | case3 row column length found inside secondCosts firstCosts ih =>
      have upEq := cells (by omega : row - 1 ≤ second.length) columnLe
      have leftEq := cells rowLe (by omega : column - 1 ≤ first.length)
      have cellEq := cells (by omega : row - 1 ≤ second.length) (by omega : column - 1 ≤ first.length)
      have letterEq : second[row - 1]? = some (second.toArray.getD (row - 1) ' ') := by
        simp [Array.getD, show row - 1 < second.length by omega]
      rw [upEq, lengthEq] at secondCosts
      rw [leftEq, lengthEq] at firstCosts
      rw [ih (by omega) (by omega) cellEq,
        canonicalLetters_take inside.2.1 rowLe inside.2.2 columnLe, if_neg secondCosts,
        if_neg firstCosts, letterEq]
      simp
  | case4 row column length found outside =>
      have zero : commonLength (first.take column) (second.take row) = 0 := by
        rcases Nat.eq_zero_or_pos row with rfl | rowPos
        · simp
        · rcases Nat.eq_zero_or_pos column with rfl | columnPos
          · simp
          · omega
      rw [canonicalLetters_of_commonLength_eq_zero zero, List.nil_append]

theorem commonLetters_eq (first second : List Char) :
    commonLetters first second = canonicalLetters first second := by
  have whole := traceback_eq (@cell_alignmentTable first second) (Nat.le_refl second.length)
    (Nat.le_refl first.length) (cell_alignmentTable (Nat.le_refl _) (Nat.le_refl _)) []
  rw [List.take_length, List.take_length, List.append_nil] at whole
  exact whole

theorem length_commonSubsequence (first second : String) :
    (commonSubsequence first second).length = commonLength first.toList second.toList := by
  rw [commonSubsequence, String.length_ofList, commonLetters_eq, length_canonicalLetters]

end Lookalike
