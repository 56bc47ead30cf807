import Lookalike.Number

/-!
# Similarity of two texts

Two texts are as similar as their longest common subsequence is long, measured
against the longer text.  `lcsLength` computes that length with two rows that are
reused in turn; `commonSubsequence` builds the whole table and walks it back to spell
out one longest common subsequence; `mayExceed` bounds the score by the lengths
alone, so that hopeless pairs need no alignment.
-/

namespace Lookalike

/-! ### The score: two rows -/

/-- Two rows of the alignment table.  `current` is a buffer: whatever it holds is
overwritten when the next row is computed. -/
structure Rows where
  previous : Array Nat
  current : Array Nat

/-- Overwrites the cells of `current` from `column` to the right, given the row above
it.  The cell left of `column` is already final. -/
def fillRow (longer : Array Char) (letter : Char) (previous current : Array Nat)
    (column : Nat) : Array Nat :=
  if h : column < longer.size then
    let cell :=
      if longer[column] = letter then previous.getD column 0 + 1
      else max (previous.getD (column + 1) 0) (current.getD column 0)
    fillRow longer letter previous (current.setIfInBounds (column + 1) cell) (column + 1)
  else current
termination_by longer.size - column

/-- Computes the next row into the buffer and swaps the two rows. -/
def Rows.step (longer : Array Char) (rows : Rows) (letter : Char) : Rows :=
  { previous := fillRow longer letter rows.previous rows.current 0
    current := rows.previous }

/-- Two rows of zeros for a text of the given length. -/
def Rows.initial (length : Nat) : Rows :=
  { previous := Array.replicate (length + 1) 0
    current := Array.replicate (length + 1) 0 }

/-- The length of a longest common subsequence. -/
def lcsLength (longer shorter : List Char) : Nat :=
  let letters := longer.toArray
  let rows := shorter.foldl (Rows.step letters) (Rows.initial letters.size)
  rows.previous.getD letters.size 0

/-- The similarity of two texts: the length of their longest common subsequence over
the length of the longer one, correctly rounded, and zero when a text is empty. -/
def score (first second : String) : Binary64 :=
  let firstLetters := first.toList
  let secondLetters := second.toList
  let (longer, shorter) :=
    if secondLetters.length ≤ firstLetters.length then (firstLetters, secondLetters)
    else (secondLetters, firstLetters)
  if longer.isEmpty ∨ shorter.isEmpty then .finite 0
  else .ofRatio false (lcsLength longer shorter) longer.length

/-! ### The evidence: the whole table -/

/-- The cells of a row right of its first column, from the cells of the row above:
`diagonal` and `left` are the cells above-left and left of the first one computed. -/
def nextCells (letter : Char) :
    (letters : List Char) → (above : List Nat) → (diagonal left : Nat) → List Nat
  | column :: letters, up :: above, diagonal, left =>
      let cell := if column = letter then diagonal + 1 else if left ≤ up then up else left
      cell :: nextCells letter letters above up cell
  | _, _, _, _ => []

/-- The row that follows `row` when one more letter is taken into account. -/
def nextRow (letters : List Char) (row : List Nat) (letter : Char) : List Nat :=
  0 :: nextCells letter letters row.tail 0 0

/-- All rows of the table from a given one on, one more for each remaining letter. -/
def rowsFrom (letters : List Char) (row : List Nat) : List Char → List (List Nat)
  | [] => [row]
  | letter :: rest => row :: rowsFrom letters (nextRow letters row letter) rest

/-- The alignment table of two texts: the cell in row `r` and column `c` is the length
of a longest common subsequence of the first `r` letters of `second` and the first `c`
letters of `first`. -/
def alignmentTable (first second : List Char) : List (List Nat) :=
  rowsFrom first (List.replicate (first.length + 1) 0) second

/-- A table with rows and cells in constant-time reach. -/
abbrev Grid := Array (Array Nat)

/-- The cell of a grid; zero outside of it. -/
def Grid.cell (grid : Grid) (row column : Nat) : Nat :=
  (grid.getD row #[]).getD column 0

/-- Walks back from the cell in row `row` and column `column`, whose value is
`length`.  Moving up is tried first, then left; only a cell that neither of them
keeps takes a letter. -/
def traceback (grid : Grid) (second : Array Char) (row column length : Nat)
    (found : List Char) : List Char :=
  if h : 0 < length ∧ 0 < row ∧ 0 < column then
    if grid.cell (row - 1) column = length then
      traceback grid second (row - 1) column length found
    else if grid.cell row (column - 1) = length then
      traceback grid second row (column - 1) length found
    else
      traceback grid second (row - 1) (column - 1) (grid.cell (row - 1) (column - 1))
        (second.getD (row - 1) ' ' :: found)
  else found
termination_by row + column

/-- One longest common subsequence.  Which one is fixed by the order of the moves of
`traceback`: the last letter is taken as early as possible in `second`, then in
`first`, and so on backwards. -/
def commonLetters (first second : List Char) : List Char :=
  let grid : Grid := ((alignmentTable first second).map List.toArray).toArray
  traceback grid second.toArray second.length first.length
    (grid.cell second.length first.length) []

/-- The evidence for a similarity: one longest common subsequence of two texts. -/
def commonSubsequence (first second : String) : String :=
  String.ofList (commonLetters first.toList second.toList)

/-! ### The length test -/

/-- Whether texts of two given lengths can reach a threshold at all: the common
subsequence is no longer than the shorter text. -/
def mayReach (firstLength secondLength : Nat) (threshold : Number) : Bool :=
  if firstLength = 0 ∨ secondLength = 0 then false
  else threshold.leFloat
    (.ofRatio false (min firstLength secondLength) (max firstLength secondLength))

end Lookalike
