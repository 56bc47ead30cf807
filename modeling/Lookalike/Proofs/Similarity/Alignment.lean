import Lookalike.Proofs.Similarity.Canonical

/-!
# The canonical alignment is the least

An alignment of two texts matches equal letters from the left to the right.  Among the longest
alignments, the canonical common subsequence is spelled by the one that is least from its last
pair backwards: its last letter stands as early as possible in the second text, then as early as
possible in the first one, and so on.  The argument follows the recursion on the ends of the
texts.  Where dropping a last letter costs nothing, an alignment that uses this letter ends later
than the canonical one; where it costs something, every longest alignment uses it.
-/

namespace Lookalike

/-- Pairs of an index in the second text and an index in the first one, rising in both, at which
the texts have the same letter. -/
structure IsAlignment (first second : List Char) (pairs : List (ℕ × ℕ)) : Prop where
  rising : pairs.Pairwise fun earlier later => earlier.1 < later.1 ∧ earlier.2 < later.2
  matching : ∀ pair ∈ pairs, ∃ letter, second[pair.1]? = some letter ∧
    first[pair.2]? = some letter

/-- An alignment of the greatest possible length. -/
structure IsLongestAlignment (first second : List Char) (pairs : List (ℕ × ℕ)) : Prop
    extends IsAlignment first second pairs where
  longest : ∀ other, IsAlignment first second other → other.length ≤ pairs.length

/-- The indices of an alignment from its last pair backwards, those in the second text first. -/
def fromLast (pairs : List (ℕ × ℕ)) : List ℕ :=
  pairs.reverse.flatMap fun pair => [pair.1, pair.2]

/-- The letters at which an alignment matches two texts. -/
def spelling (second : List Char) (pairs : List (ℕ × ℕ)) : List Char :=
  pairs.filterMap fun pair => second[pair.1]?

@[simp]
theorem fromLast_concat (pairs : List (ℕ × ℕ)) (row column : ℕ) :
    fromLast (pairs ++ [(row, column)]) = row :: column :: fromLast pairs := by
  simp [fromLast]

theorem spelling_concat (second : List Char) (pairs : List (ℕ × ℕ)) (row column : ℕ) :
    spelling second (pairs ++ [(row, column)]) =
      spelling second pairs ++ (second[row]?).toList := by
  rw [spelling, List.filterMap_append]
  rcases letterEq : second[row]? with _ | letter <;> simp [spelling, letterEq]

section

variable {first second : List Char} {pairs : List (ℕ × ℕ)} {row column : ℕ}

theorem isAlignment_nil (first second : List Char) : IsAlignment first second [] where
  rising := List.Pairwise.nil
  matching := by simp

theorem isAlignment_take_iff :
    IsAlignment (first.take column) (second.take row) pairs ↔
      IsAlignment first second pairs ∧ ∀ pair ∈ pairs, pair.1 < row ∧ pair.2 < column := by
  constructor
  · rintro ⟨rising, matching⟩
    have inside (pair) (mem : pair ∈ pairs) : pair.1 < row ∧ pair.2 < column ∧
        ∃ letter, second[pair.1]? = some letter ∧ first[pair.2]? = some letter := by
      rcases matching pair mem with ⟨letter, inSecond, inFirst⟩
      rw [List.getElem?_take] at inSecond inFirst
      split_ifs at inSecond inFirst with rowLt columnLt
      exact ⟨rowLt, columnLt, letter, inSecond, inFirst⟩
    exact ⟨⟨rising, fun pair mem => (inside pair mem).2.2⟩,
      fun pair mem => ⟨(inside pair mem).1, (inside pair mem).2.1⟩⟩
  · rintro ⟨⟨rising, matching⟩, inside⟩
    refine ⟨rising, fun pair mem => ?_⟩
    rw [List.getElem?_take, List.getElem?_take, if_pos (inside pair mem).1,
      if_pos (inside pair mem).2]
    exact matching pair mem

theorem isAlignment_concat_iff :
    IsAlignment first second (pairs ++ [(row, column)]) ↔
      IsAlignment (first.take column) (second.take row) pairs ∧
        ∃ letter, second[row]? = some letter ∧ first[column]? = some letter := by
  rw [isAlignment_take_iff]
  constructor
  · rintro ⟨rising, matching⟩
    rw [List.pairwise_append] at rising
    refine ⟨⟨⟨rising.1, fun pair mem => matching pair (by simp [mem])⟩, fun pair mem => ?_⟩, ?_⟩
    · exact rising.2.2 pair mem (row, column) (by simp)
    · exact matching (row, column) (by simp)
  · rintro ⟨⟨⟨rising, matching⟩, inside⟩, last⟩
    constructor
    · rw [List.pairwise_append]
      refine ⟨rising, List.pairwise_singleton _ _, fun pair mem last lastMem => ?_⟩
      rw [List.mem_singleton] at lastMem
      subst lastMem
      exact inside pair mem
    · intro pair mem
      rw [List.mem_append, List.mem_singleton] at mem
      rcases mem with mem | rfl
      · exact matching pair mem
      · exact last

theorem IsAlignment.length_le (aligns : IsAlignment first second pairs) :
    pairs.length ≤ commonLength first second := by
  induction pairs using List.reverseRecOn generalizing first second with
  | nil => exact Nat.zero_le _
  | append_singleton pairs last ih =>
      rcases last with ⟨row, column⟩
      rcases isAlignment_concat_iff.mp aligns with ⟨before, letter, inSecond, inFirst⟩
      have longer : commonLength (first.take (column + 1)) (second.take (row + 1)) =
          commonLength (first.take column) (second.take row) + 1 := by
        rw [List.take_add_one, List.take_add_one, inFirst, inSecond]
        exact commonLength_concat_self _ _ letter
      have le : commonLength (first.take (column + 1)) (second.take (row + 1)) ≤
          commonLength first second :=
        commonLength_mono (List.take_sublist _ _) (List.take_sublist _ _)
      have shorterLe := ih before
      rw [List.length_append, List.length_singleton]
      omega

/-! ### The last pair -/

theorem IsAlignment.le_last (aligns : IsAlignment first second (pairs ++ [(row, column)])) :
    ∀ pair ∈ pairs ++ [(row, column)], pair.1 ≤ row ∧ pair.2 ≤ column := by
  intro pair mem
  rw [List.mem_append, List.mem_singleton] at mem
  rcases mem with mem | rfl
  · have inside := (isAlignment_take_iff.mp (isAlignment_concat_iff.mp aligns).1).2 pair mem
    exact ⟨inside.1.le, inside.2.le⟩
  · exact ⟨Nat.le_refl row, Nat.le_refl column⟩

theorem isAlignment_dropLast_second_iff :
    IsAlignment first second.dropLast pairs ↔
      IsAlignment first second pairs ∧ ∀ pair ∈ pairs, pair.1 + 1 < second.length := by
  have beginning := @isAlignment_take_iff first second pairs (second.length - 1) first.length
  rw [List.take_length, ← List.dropLast_eq_take] at beginning
  rw [beginning]
  apply and_congr_right
  intro aligns
  apply forall₂_congr
  intro pair mem
  rcases aligns.matching pair mem with ⟨letter, -, inFirst⟩
  have columnLt := (List.getElem?_eq_some_iff.mp inFirst).1
  omega

theorem isAlignment_dropLast_first_iff :
    IsAlignment first.dropLast second pairs ↔
      IsAlignment first second pairs ∧ ∀ pair ∈ pairs, pair.2 + 1 < first.length := by
  have beginning := @isAlignment_take_iff first second pairs second.length (first.length - 1)
  rw [List.take_length, ← List.dropLast_eq_take] at beginning
  rw [beginning]
  apply and_congr_right
  intro aligns
  apply forall₂_congr
  intro pair mem
  rcases aligns.matching pair mem with ⟨letter, inSecond, -⟩
  have rowLt := (List.getElem?_eq_some_iff.mp inSecond).1
  omega

theorem IsAlignment.dropLast_second_or
    (aligns : IsAlignment first second (pairs ++ [(row, column)])) :
    IsAlignment first second.dropLast (pairs ++ [(row, column)]) ∨ row + 1 = second.length := by
  rcases isAlignment_concat_iff.mp aligns with ⟨-, letter, inSecond, -⟩
  have rowLt := (List.getElem?_eq_some_iff.mp inSecond).1
  by_cases last : row + 1 = second.length
  · exact Or.inr last
  · left
    refine isAlignment_dropLast_second_iff.mpr ⟨aligns, fun pair mem => ?_⟩
    have pairLe := (aligns.le_last pair mem).1
    omega

theorem IsAlignment.dropLast_first_or
    (aligns : IsAlignment first second (pairs ++ [(row, column)])) :
    IsAlignment first.dropLast second (pairs ++ [(row, column)]) ∨ column + 1 = first.length := by
  rcases isAlignment_concat_iff.mp aligns with ⟨-, letter, -, inFirst⟩
  have columnLt := (List.getElem?_eq_some_iff.mp inFirst).1
  by_cases last : column + 1 = first.length
  · exact Or.inr last
  · left
    refine isAlignment_dropLast_first_iff.mpr ⟨aligns, fun pair mem => ?_⟩
    have pairLe := (aligns.le_last pair mem).2
    omega

theorem IsAlignment.row_eq_of_costs (aligns : IsAlignment first second (pairs ++ [(row, column)]))
    (lengthEq : (pairs ++ [(row, column)]).length = commonLength first second)
    (costs : commonLength first second.dropLast ≠ commonLength first second) :
    row + 1 = second.length := by
  rcases aligns.dropLast_second_or with shorter | last
  · have le : commonLength first second.dropLast ≤ commonLength first second :=
      commonLength_mono (List.Sublist.refl first) second.dropLast_sublist
    have lengthLe := shorter.length_le
    omega
  · exact last

theorem IsAlignment.column_eq_of_costs
    (aligns : IsAlignment first second (pairs ++ [(row, column)]))
    (lengthEq : (pairs ++ [(row, column)]).length = commonLength first second)
    (costs : commonLength first.dropLast second ≠ commonLength first second) :
    column + 1 = first.length := by
  rcases aligns.dropLast_first_or with shorter | last
  · have le : commonLength first.dropLast second ≤ commonLength first second :=
      commonLength_mono first.dropLast_sublist (List.Sublist.refl second)
    have lengthLe := shorter.length_le
    omega
  · exact last

theorem spelling_dropLast (aligns : IsAlignment first second.dropLast pairs) :
    spelling second.dropLast pairs = spelling second pairs := by
  apply List.filterMap_congr
  intro pair mem
  have inside := (isAlignment_dropLast_second_iff.mp aligns).2 pair mem
  rw [List.getElem?_dropLast, if_pos (by omega)]

end

/-! ### The least alignment -/

/-- An alignment of the greatest possible length that is less, from its last pair backwards, than
every other one. -/
structure IsLeastAlignment (first second : List Char) (pairs : List (ℕ × ℕ)) : Prop
    extends IsAlignment first second pairs where
  length_eq : pairs.length = commonLength first second
  least : ∀ other, IsAlignment first second other → other.length = commonLength first second →
    other = pairs ∨ List.Lex (· < ·) (fromLast pairs) (fromLast other)

section

variable {first second : List Char} {pairs : List (ℕ × ℕ)}

theorem isLeastAlignment_nil (empty : first = [] ∨ second = []) :
    IsLeastAlignment first second [] where
  toIsAlignment := isAlignment_nil first second
  length_eq := by rcases empty with rfl | rfl <;> simp
  least := by
    intro other aligns lengthEq
    have zero : commonLength first second = 0 := by
      rcases empty with rfl | rfl <;> simp
    left
    rwa [zero, List.length_eq_zero_iff] at lengthEq

/-- Only alignments with a last pair need to be compared: without one there is a single one. -/
theorem isLeastAlignment_of_concat (aligns : IsAlignment first second pairs)
    (pairsLength : pairs.length = commonLength first second)
    (least : ∀ before row column, IsAlignment first second (before ++ [(row, column)]) →
      (before ++ [(row, column)]).length = commonLength first second →
      before ++ [(row, column)] = pairs ∨
        List.Lex (· < ·) (fromLast pairs) (fromLast (before ++ [(row, column)]))) :
    IsLeastAlignment first second pairs := by
  refine ⟨aligns, pairsLength, ?_⟩
  intro other aligns' lengthEq
  rcases other.eq_nil_or_concat' with rfl | ⟨before, ⟨row, column⟩, rfl⟩
  · left
    rw [← pairsLength] at lengthEq
    exact (List.length_eq_zero_iff.mp lengthEq.symm).symm
  · exact least before row column aligns' lengthEq

/-- The least alignment stays the least behind a letter of the second text that costs nothing:
alignments that use this letter end later. -/
theorem IsLeastAlignment.of_dropLast_second
    (leastAlignment : IsLeastAlignment first second.dropLast pairs)
    (free : commonLength first second.dropLast = commonLength first second) :
    IsLeastAlignment first second pairs := by
  rcases isAlignment_dropLast_second_iff.mp leastAlignment.toIsAlignment with ⟨aligns, inside⟩
  have pairsLength := leastAlignment.length_eq.trans free
  apply isLeastAlignment_of_concat aligns pairsLength
  intro before row column aligns' lengthEq
  rcases aligns'.dropLast_second_or with shorter | last
  · exact leastAlignment.least _ shorter (lengthEq.trans free.symm)
  · right
    rcases pairs.eq_nil_or_concat' with rfl | ⟨before', ⟨row', column'⟩, rfl⟩
    · simp at pairsLength lengthEq
      omega
    · have earlier := inside (row', column') (by simp)
      rw [fromLast_concat, fromLast_concat]
      exact List.Lex.rel (by omega)

/-- The least alignment stays the least behind a letter of the first text that costs nothing, if
the last letter of the second text is needed: all alignments agree on this letter, and those that
use the letter of the first text end later in it. -/
theorem IsLeastAlignment.of_dropLast_first
    (leastAlignment : IsLeastAlignment first.dropLast second pairs)
    (secondCosts : commonLength first second.dropLast ≠ commonLength first second)
    (free : commonLength first.dropLast second = commonLength first second) :
    IsLeastAlignment first second pairs := by
  rcases isAlignment_dropLast_first_iff.mp leastAlignment.toIsAlignment with ⟨aligns, inside⟩
  have pairsLength := leastAlignment.length_eq.trans free
  apply isLeastAlignment_of_concat aligns pairsLength
  intro before row column aligns' lengthEq
  rcases aligns'.dropLast_first_or with shorter | last
  · exact leastAlignment.least _ shorter (lengthEq.trans free.symm)
  · right
    rcases pairs.eq_nil_or_concat' with rfl | ⟨before', ⟨row', column'⟩, rfl⟩
    · simp at pairsLength lengthEq
      omega
    · have earlier := inside (row', column') (by simp)
      have rowEq := aligns'.row_eq_of_costs lengthEq secondCosts
      have rowEq' := aligns.row_eq_of_costs pairsLength secondCosts
      have sameRow : row' = row := by omega
      rw [fromLast_concat, fromLast_concat, sameRow]
      exact List.Lex.cons (List.Lex.rel (by omega))

/-- If both last letters are needed, every alignment ends with them, and the least one continues
with the least alignment of what comes before. -/
theorem IsLeastAlignment.concat
    (leastAlignment : IsLeastAlignment first.dropLast second.dropLast pairs)
    (notEmpty : ¬(first = [] ∨ second = []))
    (secondCosts : commonLength first second.dropLast ≠ commonLength first second)
    (firstCosts : commonLength first.dropLast second ≠ commonLength first second) :
    IsLeastAlignment first second (pairs ++ [(second.length - 1, first.length - 1)]) := by
  rcases exists_last_letter notEmpty secondCosts firstCosts with
    ⟨letter, firstEq, secondEq, -, longerEq⟩
  apply isLeastAlignment_of_concat
  · rw [isAlignment_concat_iff, ← List.dropLast_eq_take, ← List.dropLast_eq_take]
    refine ⟨leastAlignment.toIsAlignment, letter, ?_, ?_⟩
    · rw [← List.getLast?_eq_getElem?, secondEq, List.getLast?_concat]
    · rw [← List.getLast?_eq_getElem?, firstEq, List.getLast?_concat]
  · rw [List.length_append, leastAlignment.length_eq, longerEq]
    rfl
  · intro before row column aligns lengthEq
    have rowEq : row = second.length - 1 := by
      have last := aligns.row_eq_of_costs lengthEq secondCosts
      omega
    have columnEq : column = first.length - 1 := by
      have last := aligns.column_eq_of_costs lengthEq firstCosts
      omega
    subst rowEq columnEq
    have shorter := (isAlignment_concat_iff.mp aligns).1
    rw [← List.dropLast_eq_take, ← List.dropLast_eq_take] at shorter
    have lengthEq' : before.length = commonLength first.dropLast second.dropLast := by
      rw [List.length_append, List.length_singleton] at lengthEq
      omega
    rcases leastAlignment.least before shorter lengthEq' with same | less
    · left
      rw [same]
    · right
      rw [fromLast_concat, fromLast_concat]
      exact List.Lex.cons (List.Lex.cons less)

end

theorem exists_isLeastAlignment (first second : List Char) :
    ∃ pairs, IsLeastAlignment first second pairs ∧
      spelling second pairs = canonicalLetters first second := by
  fun_induction canonicalLetters first second with
  | case1 first second empty => exact ⟨[], isLeastAlignment_nil empty, rfl⟩
  | case2 first second notEmpty secondFree ih =>
      rcases ih with ⟨pairs, leastAlignment, spelled⟩
      refine ⟨pairs, leastAlignment.of_dropLast_second secondFree, ?_⟩
      rw [← spelling_dropLast leastAlignment.toIsAlignment, spelled]
  | case3 first second notEmpty secondCosts firstFree ih =>
      rcases ih with ⟨pairs, leastAlignment, spelled⟩
      exact ⟨pairs, leastAlignment.of_dropLast_first secondCosts firstFree, spelled⟩
  | case4 first second notEmpty secondCosts firstCosts ih =>
      rcases ih with ⟨pairs, leastAlignment, spelled⟩
      refine ⟨_, leastAlignment.concat notEmpty secondCosts firstCosts, ?_⟩
      rw [spelling_concat, ← spelling_dropLast leastAlignment.toIsAlignment, spelled,
        List.getLast?_eq_getElem?]

/-- The evidence for two texts is spelled by the longest alignment that is least from its last
pair backwards, and found by dropping last letters where that costs nothing. -/
theorem evidence_spells_least_alignment (first second : String) :
    (∃ pairs, IsLongestAlignment first.toList second.toList pairs ∧
      (∀ other, IsLongestAlignment first.toList second.toList other →
        other = pairs ∨ List.Lex (· < ·) (fromLast pairs) (fromLast other)) ∧
      (commonSubsequence first second).toList = spelling second.toList pairs) ∧
    (commonSubsequence first second).toList =
      canonicalLetters first.toList second.toList := by
  have lettersEq : (commonSubsequence first second).toList =
      canonicalLetters first.toList second.toList := by
    rw [commonSubsequence, String.toList_ofList, commonLetters_eq]
  refine ⟨?_, lettersEq⟩
  rcases exists_isLeastAlignment first.toList second.toList with ⟨pairs, leastAlignment, spelled⟩
  have lengthEq := leastAlignment.length_eq
  refine ⟨pairs, ⟨leastAlignment.toIsAlignment, fun other aligns => ?_⟩, fun other longest => ?_,
    lettersEq.trans spelled.symm⟩
  · rw [lengthEq]
    exact aligns.length_le
  · apply leastAlignment.least other longest.toIsAlignment
    apply le_antisymm longest.length_le
    rw [← lengthEq]
    exact longest.longest pairs leastAlignment.toIsAlignment

/-- Of two alignments of seven letters, the one whose last letter stands earlier in the second
text is spelled. -/
example : commonSubsequence "ALEXANDRE" "ALEKSANDER" = "ALEANDE" := by
  cbv

end Lookalike
