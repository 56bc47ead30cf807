/-!
# Tables of code points

Character properties are kept as text: code points in hexadecimal, ranges with a
hyphen, values after an equals sign.  This file reads such texts into sorted arrays
and looks characters up by bisection.
-/

namespace Lookalike

/-- The value of hexadecimal digits; other characters count as zero. -/
def readHex (digits : List Char) : Nat :=
  digits.foldl (fun value digit =>
    let place :=
      if digit.isDigit then digit.toNat - '0'.toNat
      else if 'A' ≤ digit ∧ digit ≤ 'F' then digit.toNat - 'A'.toNat + 10
      else 0
    value * 16 + place) 0

/-- The entries of a table, which blanks separate. -/
def tableEntries (lines : Array String) : List (List Char) :=
  lines.toList.flatMap fun line => line.toList.splitOn ' '

/-- Reads a table of single code points. -/
def readCodePoints (lines : Array String) : Array Nat :=
  ((tableEntries lines).map readHex).toArray

/-- Reads a code point or a range of code points. -/
def readRange (entry : List Char) : Nat × Nat :=
  let first := readHex (entry.takeWhile (· ≠ '-'))
  match entry.dropWhile (· ≠ '-') with
  | [] => (first, first)
  | _ :: last => (first, readHex last)

/-- The number of entries of a sorted table whose key is at most `point`, looked for
between two indices. -/
def bisect (key : Nat → Nat) (point low high : Nat) : Nat :=
  if low < high then
    let middle := (low + high) / 2
    if key middle ≤ point then bisect key point (middle + 1) high
    else bisect key point low middle
  else low
termination_by high - low

/-- A set of code points: sorted disjoint ranges. -/
structure CodePoints where
  ranges : Array (Nat × Nat)

namespace CodePoints

def ofLines (lines : Array String) : CodePoints :=
  ⟨((tableEntries lines).map readRange).toArray⟩

def containsPoint (set : CodePoints) (point : Nat) : Bool :=
  let after := bisect (fun index => (set.ranges.getD index (0, 0)).1) point 0 set.ranges.size
  match after with
  | 0 => false
  | index + 1 => point ≤ (set.ranges.getD index (0, 0)).2

def contains (set : CodePoints) (letter : Char) : Bool :=
  set.containsPoint letter.toNat

end CodePoints

/-- A map from code points to a number, by ranges. -/
structure CodePointClasses where
  entries : Array ((Nat × Nat) × Nat)

namespace CodePointClasses

def ofLines (lines : Array String) : CodePointClasses :=
  ⟨((tableEntries lines).map fun entry =>
    (readRange (entry.takeWhile (· ≠ '=')),
      readHex ((entry.dropWhile (· ≠ '=')).drop 1))).toArray⟩

/-- The number of a code point; zero when the table does not hold it. -/
def get (table : CodePointClasses) (point : Nat) : Nat :=
  let after := bisect (fun index => (table.entries.getD index ((0, 0), 0)).1.1) point 0
    table.entries.size
  match after with
  | 0 => 0
  | index + 1 =>
      let entry := table.entries.getD index ((0, 0), 0)
      if point ≤ entry.1.2 then entry.2 else 0

end CodePointClasses

/-- A map from numbers to sequences of characters, sorted by key. -/
structure CodePointMap where
  entries : Array (Nat × List Char)

namespace CodePointMap

def ofLines (lines : Array String) : CodePointMap :=
  ⟨((tableEntries lines).map fun entry =>
    (readHex (entry.takeWhile (· ≠ '=')),
      (((entry.dropWhile (· ≠ '=')).drop 1).splitOn '+').map
        fun digits => Char.ofNat (readHex digits))).toArray⟩

def find? (map : CodePointMap) (key : Nat) : Option (List Char) :=
  let after := bisect (fun index => (map.entries.getD index (0, [])).1) key 0 map.entries.size
  match after with
  | 0 => none
  | index + 1 =>
      let entry := map.entries.getD index (0, [])
      if entry.1 = key then some entry.2 else none

end CodePointMap

end Lookalike
