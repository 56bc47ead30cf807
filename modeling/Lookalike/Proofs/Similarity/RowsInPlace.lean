import Lookalike.Proofs.Similarity.Score

/-!
# The scorer's rows are rows of the table

The score keeps two rows and exchanges them after each letter of the shorter text; the evidence
keeps the whole table.  Here both are compared cell by cell.  What is in place after some letters
is the whole row of the table that belongs to them, and this does not depend on what the buffer
held: all of it right of the first column may be overwritten before every letter.  The table
itself is symmetric in the two texts, although its tie rules are not.
-/

namespace Lookalike

/-! ### Cells -/

/-- The cell of a table, if the table has it. -/
def cell? (table : List (List ℕ)) (row column : ℕ) : Option ℕ :=
  (table[row]?).bind (·[column]?)

section

variable {first second : List Char} {row column : ℕ}

theorem cell?_alignmentTable (rowLe : row ≤ second.length) (columnLe : column ≤ first.length) :
    cell? (alignmentTable first second) row column =
      some (commonLength (first.take column) (second.take row)) := by
  rw [cell?, getElem?_alignmentTable rowLe, Option.bind_some, getElem?_row _ columnLe]

theorem cell?_alignmentTable_swap (rowLe : row ≤ second.length)
    (columnLe : column ≤ first.length) :
    cell? (alignmentTable second first) column row =
      some (commonLength (first.take column) (second.take row)) := by
  rw [cell?_alignmentTable columnLe rowLe, commonLength_comm]

end

/-! ### Rows -/

/-- The two texts in the roles in which they are scored: the longer one first, and the first one
if none is longer. -/
def byLength (first second : List Char) : List Char × List Char :=
  if second.length ≤ first.length then (first, second) else (second, first)

/-- The two rows after the first letters of the shorter text. -/
def rowsAfter (longer shorter : List Char) (count : ℕ) : Rows :=
  (shorter.take count).foldl (Rows.step longer.toArray) (Rows.initial longer.length)

/-- Whether two rows can be what is kept after some letters, if before every letter anything may
be written to the buffer but to its first column. -/
inductive HeldAfter (longer : List Char) : List Char → Rows → Prop where
  | start : HeldAfter longer [] (Rows.initial longer.length)
  | letter {taken : List Char} {rows : Rows} (held : HeldAfter longer taken rows)
      (buffer : Array ℕ) (size_eq : buffer.size = longer.length + 1)
      (first_eq : buffer.getD 0 0 = 0) (letter : Char) :
      HeldAfter longer (taken ++ [letter])
        (Rows.step longer.toArray { rows with current := buffer } letter)

section

variable {longer taken : List Char} {rows : Rows}

/-- Whatever was written to the buffer, the rows fit and the row in place is the row of the
table. -/
theorem HeldAfter.fits_and_toList (held : HeldAfter longer taken rows) :
    rows.Fits longer.toArray.size ∧
      rows.previous.toList =
        taken.foldl (nextRow longer) (List.replicate (longer.length + 1) 0) := by
  induction held with
  | start => exact ⟨Rows.fits_initial _, by simp [Rows.initial]⟩
  | @letter taken rows _ buffer size_eq first_eq letter ih =>
      rcases ih with ⟨fits, rowEq⟩
      have fits' : Rows.Fits { rows with current := buffer } longer.toArray.size :=
        { fits with
          current_size := size_eq
          current_first := first_eq }
      refine ⟨Rows.fits_step letter fits', ?_⟩
      rw [Rows.toList_previous_step letter fits', List.foldl_append, ← rowEq]
      rfl

/-- The scorer itself writes nothing to the buffer between two letters. -/
theorem heldAfter_foldl (longer taken : List Char) :
    HeldAfter longer taken
      (taken.foldl (Rows.step longer.toArray) (Rows.initial longer.length)) := by
  induction taken using List.reverseRecOn with
  | nil => exact .start
  | append_singleton taken letter ih =>
      have fits := ih.fits_and_toList.1
      rw [List.foldl_append]
      exact ih.letter _ fits.current_size fits.current_first letter

end

theorem lcsLength_eq_rowsAfter (longer shorter : List Char) :
    lcsLength longer shorter =
      (rowsAfter longer shorter shorter.length).previous.getD longer.length 0 := by
  rw [rowsAfter, List.take_length]
  rfl

theorem score_eq_rowsAfter {first second : String} (firstNe : first ≠ "") (secondNe : second ≠ "")
    {longer shorter : List Char} (roles : (longer, shorter) = byLength first.toList second.toList) :
    score first second =
      .ofRatio false ((rowsAfter longer shorter shorter.length).previous.getD longer.length 0)
        longer.length := by
  rw [← lcsLength_eq_rowsAfter]
  have lettersNe : first.toList ≠ [] ∧ second.toList ≠ [] := by
    simp [firstNe, secondNe]
  rw [byLength] at roles
  split_ifs at roles with le
  · cases roles
    simp [score, le, lettersNe]
  · cases roles
    simp [score, le, lettersNe]

/-- Every cell of the table is the greatest length of a text that is common to the two beginnings
it belongs to, and the table of the two texts exchanged holds it across the diagonal.  When two
texts are scored, the row in place after any number of letters of the shorter one is that row of
their table as a whole, whatever the buffer held before each letter, and its last cell after all
letters is what is divided by the longer length. -/
theorem rows_in_place_eq_table_rows (first second : String) :
    (∀ row ≤ second.length, ∀ column ≤ first.length, ∃ length,
        cell? (alignmentTable first.toList second.toList) row column = some length ∧
        cell? (alignmentTable second.toList first.toList) column row = some length ∧
        IsGreatest
          {count | ∃ common : List Char, common.Sublist (second.toList.take row) ∧
            common.Sublist (first.toList.take column) ∧ common.length = count} length) ∧
      (first ≠ "" → second ≠ "" →
        ∀ longer shorter, (longer, shorter) = byLength first.toList second.toList →
          (∀ count ≤ shorter.length,
            HeldAfter longer (shorter.take count) (rowsAfter longer shorter count) ∧
            ∀ rows, HeldAfter longer (shorter.take count) rows →
              (alignmentTable longer shorter)[count]? = some rows.previous.toList) ∧
          score first second =
            .ofRatio false ((rowsAfter longer shorter shorter.length).previous.getD longer.length 0)
              longer.length) := by
  constructor
  · intro row rowLe column columnLe
    rw [← String.length_toList] at rowLe columnLe
    refine ⟨_, cell?_alignmentTable rowLe columnLe, cell?_alignmentTable_swap rowLe columnLe, ?_⟩
    rw [commonLength_comm]
    exact isGreatest_commonLength _ _
  · intro firstNe secondNe longer shorter roles
    refine ⟨?_, score_eq_rowsAfter firstNe secondNe roles⟩
    intro count countLe
    refine ⟨heldAfter_foldl longer (shorter.take count), ?_⟩
    intro rows held
    rw [getElem?_alignmentTable countLe, held.fits_and_toList.2, foldl_nextRow_eq]

end Lookalike
