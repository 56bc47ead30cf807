import Lookalike.Proofs.Similarity.CommonLength
import Lookalike.Proofs.Similarity.Rows
import Mathlib.Data.List.Infix

/-!
# The table holds the lengths of longest common subsequences

Rows belong to the beginnings of the second text and columns to the beginnings of the first
one.  A row is computed from the row above it by the recurrence for the last letters, so that
every cell is the greatest common length of the two beginnings it belongs to.  The two rows
that `lcsLength` keeps are rows of this table, and its result is the cell of the whole texts.
-/

namespace Lookalike

theorem inits_eq_cons_tail {Member : Type} (members : List Member) :
    members.inits = [] :: members.inits.tail := by
  cases members <;> rfl

theorem map_tail_inits_cons {Value : Type} (value : List Char → Value) (letter : Char)
    (letters : List Char) :
    (letter :: letters).inits.tail.map value =
      value [letter] :: letters.inits.tail.map fun more => value (letter :: more) := by
  rw [List.inits_cons, List.tail_cons, List.map_map, inits_eq_cons_tail letters, List.map_cons]
  rfl

/-! ### Rows -/

theorem nextCells_eq (letter : Char) (letters before taken : List Char) :
    nextCells letter letters
        (letters.inits.tail.map fun more => commonLength (before ++ more) taken)
        (commonLength before taken) (commonLength before (taken ++ [letter])) =
      letters.inits.tail.map fun more =>
        commonLength (before ++ more) (taken ++ [letter]) := by
  induction letters generalizing before with
  | nil => rfl
  | cons column letters ih =>
      have cellEq : (if column = letter then commonLength before taken + 1
          else if commonLength before (taken ++ [letter]) ≤ commonLength (before ++ [column]) taken
            then commonLength (before ++ [column]) taken
          else commonLength before (taken ++ [letter])) =
          commonLength (before ++ [column]) (taken ++ [letter]) := by
        split_ifs with same le
        · rw [same, commonLength_concat_self]
        · rw [commonLength_concat_of_ne before taken same, max_eq_left le]
        · rw [commonLength_concat_of_ne before taken same, max_eq_right (by omega)]
      have further := ih (before ++ [column])
      simp only [List.append_assoc, List.singleton_append] at further
      rw [map_tail_inits_cons, map_tail_inits_cons, nextCells, cellEq, further]

theorem nextRow_eq (first taken : List Char) (letter : Char) :
    nextRow first (first.inits.map (commonLength · taken)) letter =
      first.inits.map (commonLength · (taken ++ [letter])) := by
  rw [inits_eq_cons_tail first, List.map_cons, List.map_cons, nextRow, List.tail_cons]
  have cells := nextCells_eq letter first [] taken
  simp only [List.nil_append, commonLength_nil_left] at cells
  rw [cells, commonLength_nil_left]

theorem foldl_nextRow_eq (first taken : List Char) :
    taken.foldl (nextRow first) (List.replicate (first.length + 1) 0) =
      first.inits.map (commonLength · taken) := by
  induction taken using List.reverseRecOn with
  | nil =>
      simp
  | append_singleton taken letter ih =>
      rw [List.foldl_append, ih, List.foldl_cons, List.foldl_nil, nextRow_eq]

/-! ### The table -/

theorem rowsFrom_eq (first rest : List Char) (row : List ℕ) :
    rowsFrom first row rest = rest.inits.map fun more => more.foldl (nextRow first) row := by
  induction rest generalizing row with
  | nil => rfl
  | cons letter rest ih =>
      rw [rowsFrom, ih, List.inits_cons, List.map_cons, List.map_map]
      rfl

/-- Every cell of the table is the greatest common length of two beginnings. -/
theorem alignmentTable_eq (first second : List Char) :
    alignmentTable first second =
      second.inits.map fun taken => first.inits.map (commonLength · taken) := by
  rw [alignmentTable, rowsFrom_eq]
  simp only [foldl_nextRow_eq]

section

variable {first second : List Char} {row column : ℕ}

theorem getElem?_alignmentTable (rowLe : row ≤ second.length) :
    (alignmentTable first second)[row]? =
      some (first.inits.map (commonLength · (second.take row))) := by
  rw [alignmentTable_eq, List.getElem?_map, List.getElem?_eq_getElem (by simp; omega),
    List.getElem_inits]
  rfl

theorem getElem?_row (taken : List Char) (columnLe : column ≤ first.length) :
    (first.inits.map (commonLength · taken))[column]? =
      some (commonLength (first.take column) taken) := by
  rw [List.getElem?_map, List.getElem?_eq_getElem (by simp; omega), List.getElem_inits]
  rfl

theorem cell_alignmentTable (rowLe : row ≤ second.length) (columnLe : column ≤ first.length) :
    Grid.cell ((alignmentTable first second).map List.toArray).toArray row column =
      commonLength (first.take column) (second.take row) := by
  simp only [Grid.cell, Array.getD_eq_getD_getElem?, List.getElem?_toArray]
  rw [List.getElem?_map, getElem?_alignmentTable rowLe]
  simp only [Option.map_some, Option.getD_some, List.getElem?_toArray]
  rw [getElem?_row _ columnLe, Option.getD_some]

end

theorem lcsLength_eq_commonLength (longer shorter : List Char) :
    lcsLength longer shorter = commonLength longer shorter := by
  rw [lcsLength_eq_getD_foldl, foldl_nextRow_eq]
  simp [List.getD_eq_getElem?_getD]

end Lookalike
