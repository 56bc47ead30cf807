import Lookalike.Text.CodePoints

/-!
# Looking code points up

What a table tells of a code point stands in one of its entries.  Bisection does not leave the
table, and the entry before the index that it finds has a key that is not greater than what is
looked for.  This holds of any table; only that nothing is missed would need a sorted one.

Tables are kept as texts.  What is true of all entries of a table is checked by evaluation, on the
letters of its lines.
-/

namespace Lookalike

section

variable {key : Nat → Nat} {point low high : Nat}

theorem bisect_le (le : low ≤ high) : bisect key point low high ≤ high := by
  induction low, high using bisect.induct key point with
  | case1 low high lt middle keyLe ih =>
      rw [bisect, if_pos lt, if_pos keyLe]
      exact ih (by omega)
  | case2 low high lt middle keyGt ih =>
      rw [bisect, if_pos lt, if_neg keyGt]
      have lowLe : low ≤ middle := by omega
      have middleLe : middle ≤ high := by omega
      exact Nat.le_trans (ih lowLe) middleLe
  | case3 low high notLt =>
      rw [bisect, if_neg notLt]
      exact le

/-- Bisection only goes up behind an entry whose key is not greater. -/
theorem bisect_eq_or_key_le :
    bisect key point low high = low ∨
      ∃ index, bisect key point low high = index + 1 ∧ key index ≤ point := by
  induction low, high using bisect.induct key point with
  | case1 low high lt middle keyLe ih =>
      rw [bisect, if_pos lt, if_pos keyLe]
      rcases ih with stays | goesUp
      · exact Or.inr ⟨middle, stays, keyLe⟩
      · exact Or.inr goesUp
  | case2 low high lt middle keyGt ih =>
      rw [bisect, if_pos lt, if_neg keyGt]
      exact ih
  | case3 low high notLt =>
      rw [bisect, if_neg notLt]
      exact Or.inl rfl

/-- The index before the one that bisection finds in a whole table is one of the table, and its key
is not greater than what is looked for. -/
theorem lt_and_key_le_of_bisect {size index : Nat}
    (found : bisect key point 0 size = index + 1) : index < size ∧ key index ≤ point := by
  constructor
  · have le : bisect key point 0 size ≤ size := bisect_le (Nat.zero_le size)
    omega
  · have stays_or : bisect key point 0 size = 0 ∨
        ∃ index, bisect key point 0 size = index + 1 ∧ key index ≤ point := bisect_eq_or_key_le
    rcases stays_or with stays | ⟨index', found', keyLe⟩
    · omega
    · rw [found, Nat.succ.injEq] at found'
      rw [found']
      exact keyLe

end

/-! ### Lines of a table -/

/-- Texts and their letters, one by one.  Evaluation takes lists of letters apart, but no texts. -/
inductive Spelled : List String → List (List Char) → Prop where
  | nil : Spelled [] []
  | cons {letters : List Char} {lines : List String} {spelled : List (List Char)}
      (rest : Spelled lines spelled) : Spelled (String.ofList letters :: lines) (letters :: spelled)

theorem tableEntries_eq_of_spelled {lines : Array String} {spelled : List (List Char)}
    (spells : Spelled lines.toList spelled) :
    tableEntries lines = spelled.flatMap (·.splitOn ' ') := by
  have lettersEq : lines.toList.map String.toList = spelled := by
    generalize lines.toList = texts at spells
    induction spells with
    | nil => rfl
    | cons rest ih => rw [List.map_cons, String.toList_ofList, ih]
  rw [tableEntries, ← lettersEq, List.flatMap_map]

/-! ### Sets -/

namespace CodePoints

theorem exists_range_of_containsPoint {set : CodePoints} {point : Nat}
    (contains : set.containsPoint point = true) :
    ∃ range ∈ set.ranges, range.1 ≤ point ∧ point ≤ range.2 := by
  simp only [containsPoint] at contains
  split at contains
  · cases contains
  · rename_i index found
    rcases lt_and_key_le_of_bisect found with ⟨indexLt, keyLe⟩
    simp only [Array.getD_eq_getD_getElem?, Array.getElem?_eq_getElem indexLt,
      Option.getD_some, decide_eq_true_eq] at keyLe contains
    exact ⟨_, Array.getElem_mem indexLt, keyLe, contains⟩

theorem forall_mem_ofLines {lines : Array String} {spelled : List (List Char)}
    (holds : Nat × Nat → Bool) (spells : Spelled lines.toList spelled)
    (checked :
      (spelled.flatMap (·.splitOn ' ')).all (fun entry => holds (readRange entry)) = true) :
    ∀ range ∈ (ofLines lines).ranges, holds range = true := by
  intro range mem
  simp only [ofLines, tableEntries_eq_of_spelled spells, List.mem_toArray, List.mem_map] at mem
  rcases mem with ⟨entry, entryMem, rfl⟩
  exact List.all_eq_true.mp checked entry entryMem

end CodePoints

/-! ### Maps -/

/-- Reads an entry of a map. -/
def readForm (entry : List Char) : Nat × List Char :=
  (readHex (entry.takeWhile (· ≠ '=')),
    (((entry.dropWhile (· ≠ '=')).drop 1).splitOn '+').map
      fun digits => Char.ofNat (readHex digits))

namespace CodePointMap

theorem mem_of_find? {map : CodePointMap} {key : Nat} {letters : List Char}
    (found : map.find? key = some letters) : (key, letters) ∈ map.entries := by
  simp only [find?] at found
  split at found
  · cases found
  · rename_i index bisected
    have indexLt := (lt_and_key_le_of_bisect bisected).1
    simp only [Array.getD_eq_getD_getElem?, Array.getElem?_eq_getElem indexLt,
      Option.getD_some] at found
    split at found
    · rename_i keyEq
      rw [← keyEq, ← Option.some.inj found]
      exact Array.getElem_mem indexLt
    · cases found

theorem forall_mem_ofLines {lines : Array String} {spelled : List (List Char)}
    (holds : Nat × List Char → Bool) (spells : Spelled lines.toList spelled)
    (checked :
      (spelled.flatMap (·.splitOn ' ')).all (fun entry => holds (readForm entry)) = true) :
    ∀ form ∈ (ofLines lines).entries, holds form = true := by
  intro form mem
  simp only [ofLines, tableEntries_eq_of_spelled spells, List.mem_toArray, List.mem_map] at mem
  rcases mem with ⟨entry, entryMem, rfl⟩
  exact List.all_eq_true.mp checked entry entryMem

end CodePointMap

end Lookalike
