import Lookalike.Similarity
import Mathlib.Tactic.SplitIfs

/-!
# Two rows compute the table

`lcsLength` keeps two rows and writes every new row over the one before the last.  The
row that is written is the next row of the alignment table, whatever the buffer held
before, so the two rows hold the same numbers as the table and inherit its bounds.
-/

namespace Lookalike

/-! ### Rows of the table -/

/-- A cell exceeds the cells that it is computed from by one at most. -/
theorem nextCells_le {bound : Nat} (letter : Char) (letters : List Char) {above : List Nat}
    {diagonal left : Nat} (aboveLe : ∀ cell ∈ above, cell ≤ bound)
    (diagonalLe : diagonal ≤ bound) (leftLe : left ≤ bound + 1) :
    ∀ cell ∈ nextCells letter letters above diagonal left, cell ≤ bound + 1 := by
  induction letters generalizing above diagonal left with
  | nil => simp [nextCells]
  | cons column letters ih =>
      cases above with
      | nil => simp [nextCells]
      | cons up above =>
          have upLe : up ≤ bound := aboveLe up (by simp)
          have firstLe : (if column = letter then diagonal + 1
              else if left ≤ up then up else left) ≤ bound + 1 := by
            split_ifs <;> omega
          intro cell mem
          simp only [nextCells, List.mem_cons] at mem
          rcases mem with rfl | mem
          · exact firstLe
          · exact ih (fun cell mem => aboveLe cell (by simp [mem])) upLe firstLe cell mem

theorem nextRow_le {bound : Nat} (letters : List Char) {row : List Nat} (letter : Char)
    (rowLe : ∀ cell ∈ row, cell ≤ bound) :
    ∀ cell ∈ nextRow letters row letter, cell ≤ bound + 1 := by
  intro cell mem
  simp only [nextRow, List.mem_cons] at mem
  rcases mem with rfl | mem
  · omega
  · exact nextCells_le letter letters (fun cell mem => rowLe cell (List.mem_of_mem_tail mem))
      (Nat.zero_le _) (Nat.zero_le _) cell mem

/-- After some letters, no cell of the row counts more than there are letters. -/
theorem foldl_nextRow_le (letters taken : List Char) {row : List Nat} {bound : Nat}
    (rowLe : ∀ cell ∈ row, cell ≤ bound) :
    ∀ cell ∈ taken.foldl (nextRow letters) row, cell ≤ bound + taken.length := by
  induction taken generalizing row bound with
  | nil => simpa using rowLe
  | cons letter taken ih =>
      intro cell mem
      have cellLe := ih (nextRow_le letters letter rowLe) cell mem
      simp only [List.length_cons]
      omega

/-! ### The buffer -/

theorem size_fillRow (longer : Array Char) (letter : Char) (previous current : Array Nat)
    (column : Nat) :
    (fillRow longer letter previous current column).size = current.size := by
  fun_induction fillRow longer letter previous current column with
  | case1 current column within cell ih => simpa using ih
  | case2 current column outside => rfl

/-- Filling the buffer from a column on keeps what stands left of it and up to it, and
overwrites all else with the next row of the table. -/
theorem toList_fillRow (longer : Array Char) (letter : Char) (previous current : Array Nat)
    (column : Nat) (previous_size : previous.size = longer.size + 1)
    (current_size : current.size = longer.size + 1) (within : column ≤ longer.size) :
    (fillRow longer letter previous current column).toList =
      current.toList.take (column + 1) ++
        nextCells letter (longer.toList.drop column) (previous.toList.drop (column + 1))
          (previous.getD column 0) (current.getD column 0) := by
  fun_induction fillRow longer letter previous current column with
  | case1 current column inside cell ih =>
      have lettersEq : longer.toList.drop column =
          longer[column] :: longer.toList.drop (column + 1) := by
        rw [List.drop_eq_getElem_cons (by simpa using inside), Array.getElem_toList]
      have aboveEq : previous.toList.drop (column + 1) =
          previous.getD (column + 1) 0 :: previous.toList.drop (column + 2) := by
        rw [List.drop_eq_getElem_cons (by simp; omega), Array.getElem_toList]
        simp [Array.getD, show column + 1 < previous.size by omega]
      have written : (current.setIfInBounds (column + 1) cell).getD (column + 1) 0 = cell := by
        simp [Array.getD, show column + 1 < current.size by omega]
      have kept : (current.setIfInBounds (column + 1) cell).toList.take (column + 1 + 1) =
          current.toList.take (column + 1) ++ [cell] := by
        rw [List.take_add_one, Array.toList_setIfInBounds, List.take_set_of_le (Nat.le_refl _)]
        simp [show column + 1 < current.size by omega]
      have cellEq : cell = if longer[column] = letter then previous.getD column 0 + 1
          else if current.getD column 0 ≤ previous.getD (column + 1) 0 then
            previous.getD (column + 1) 0
          else current.getD column 0 := by
        simp only [cell]
        split_ifs <;> omega
      rw [ih (by simpa using current_size) (by omega), kept, written, lettersEq, aboveEq,
        nextCells, ← cellEq]
      simp
  | case2 current column outside =>
      have lettersEq : longer.toList.drop column = [] := by
        simpa using outside
      have takenEq : current.toList.take (column + 1) = current.toList := by
        rw [List.take_of_length_le]
        simp only [Array.length_toList]
        omega
      simp [lettersEq, takenEq, nextCells]

/-! ### The two rows -/

/-- Two rows of the length that a text needs, of which the buffer still begins with the
zero of the table's first column. -/
structure Rows.Fits (rows : Rows) (length : Nat) : Prop where
  previous_size : rows.previous.size = length + 1
  current_size : rows.current.size = length + 1
  previous_first : rows.previous.getD 0 0 = 0
  current_first : rows.current.getD 0 0 = 0

theorem Rows.fits_initial (length : Nat) : (Rows.initial length).Fits length where
  previous_size := by simp [Rows.initial]
  current_size := by simp [Rows.initial]
  previous_first := by simp [Rows.initial]
  current_first := by simp [Rows.initial]

/-- A step puts the next row of the table into place, whatever the buffer held. -/
theorem Rows.toList_previous_step {longer : Array Char} {rows : Rows} (letter : Char)
    (fits : rows.Fits longer.size) :
    (rows.step longer letter).previous.toList =
      nextRow longer.toList rows.previous.toList letter := by
  have firstEq : rows.current.toList.take 1 = [0] := by
    have currentPos : 0 < rows.current.size := by
      rw [fits.current_size]
      exact Nat.succ_pos _
    rw [List.take_one, List.head?_eq_getElem?, Array.getElem?_toList]
    simpa [Array.getD, currentPos] using fits.current_first
  simp only [Rows.step]
  rw [toList_fillRow longer letter rows.previous rows.current 0 fits.previous_size
    fits.current_size (Nat.zero_le _), nextRow, fits.previous_first, fits.current_first]
  simp [firstEq]

theorem Rows.fits_step {longer : Array Char} {rows : Rows} (letter : Char)
    (fits : rows.Fits longer.size) : (rows.step longer letter).Fits longer.size where
  previous_size := by simp [Rows.step, size_fillRow, fits.current_size]
  current_size := fits.previous_size
  previous_first := by
    rw [Array.getD_eq_getD_getElem?, ← Array.getElem?_toList,
      Rows.toList_previous_step letter fits]
    rfl
  current_first := fits.previous_first

/-- After any number of letters, the row in place is the row of the table. -/
theorem Rows.toList_previous_foldl {longer : Array Char} {rows : Rows} (taken : List Char)
    (fits : rows.Fits longer.size) :
    (taken.foldl (Rows.step longer) rows).previous.toList =
      taken.foldl (nextRow longer.toList) rows.previous.toList := by
  induction taken generalizing rows with
  | nil => rfl
  | cons letter taken ih =>
      simp only [List.foldl_cons]
      rw [ih (Rows.fits_step letter fits), Rows.toList_previous_step letter fits]

/-- The length that the two rows find is the last cell of the table's last row. -/
theorem lcsLength_eq_getD_foldl (longer shorter : List Char) :
    lcsLength longer shorter =
      (shorter.foldl (nextRow longer) (List.replicate (longer.length + 1) 0)).getD
        longer.length 0 := by
  have rowsEq : (shorter.foldl (Rows.step longer.toArray)
      (Rows.initial longer.length)).previous.toList =
      shorter.foldl (nextRow longer) (Rows.initial longer.length).previous.toList :=
    Rows.toList_previous_foldl shorter (Rows.fits_initial longer.toArray.size)
  simp only [lcsLength, List.size_toArray]
  rw [Array.getD_eq_getD_getElem?, ← Array.getElem?_toList, rowsEq]
  simp [Rows.initial]

/-- A common subsequence is no longer than the shorter text. -/
theorem lcsLength_le_length (longer shorter : List Char) :
    lcsLength longer shorter ≤ shorter.length := by
  rw [lcsLength_eq_getD_foldl, List.getD_eq_getElem?_getD]
  have cellsLe : ∀ cell ∈ shorter.foldl (nextRow longer) (List.replicate (longer.length + 1) 0),
      cell ≤ 0 + shorter.length :=
    foldl_nextRow_le longer shorter (by simp)
  rcases found : (shorter.foldl (nextRow longer) (List.replicate (longer.length + 1) 0))[
      longer.length]? with _ | cell
  · simp
  · simpa using cellsLe cell (List.mem_of_getElem? found)

end Lookalike
