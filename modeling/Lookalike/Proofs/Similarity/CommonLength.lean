import Mathlib.Data.Finset.Lattice.Fold
import Mathlib.Data.List.Sublists
import Mathlib.Order.Bounds.Basic
import Mathlib.Order.Lattice.Nat

/-!
# The length of a longest common subsequence

The dynamic programs compute a number that is defined without them: the greatest length of
a text that is a subsequence of two texts.  Here that number is defined by looking at all
subsequences, and the recurrence that the programs rely on is proved of it.  Two texts that
end in the same letter lose nothing when these letters are matched; if they end in different
letters, one of the two last letters takes no part.
-/

namespace Lookalike

/-- The greatest length of a text that is a subsequence of both texts. -/
def commonLength (first second : List Char) : ℕ :=
  (first.sublists.toFinset.filter (·.Sublist second)).sup List.length

section

variable {first second common : List Char}

theorem length_le_commonLength (inFirst : common.Sublist first)
    (inSecond : common.Sublist second) : common.length ≤ commonLength first second := by
  apply Finset.le_sup (f := List.length)
  simp [inFirst, inSecond]

theorem exists_length_eq_commonLength (first second : List Char) :
    ∃ common : List Char, common.Sublist first ∧ common.Sublist second ∧
      common.length = commonLength first second := by
  have someCommon : (first.sublists.toFinset.filter (·.Sublist second)).Nonempty := by
    use []
    simp
  rcases Finset.exists_mem_eq_sup _ someCommon List.length with ⟨common, mem, lengthEq⟩
  simp only [Finset.mem_filter, List.mem_toFinset, List.mem_sublists] at mem
  exact ⟨common, mem.1, mem.2, lengthEq.symm⟩

theorem isGreatest_commonLength (first second : List Char) :
    IsGreatest
      {length | ∃ common : List Char,
        common.Sublist first ∧ common.Sublist second ∧ common.length = length}
      (commonLength first second) := by
  constructor
  · exact exists_length_eq_commonLength first second
  · rintro length ⟨common, inFirst, inSecond, rfl⟩
    exact length_le_commonLength inFirst inSecond

theorem commonLength_comm (first second : List Char) :
    commonLength first second = commonLength second first := by
  apply le_antisymm
  · rcases exists_length_eq_commonLength first second with ⟨common, inFirst, inSecond, lengthEq⟩
    rw [← lengthEq]
    exact length_le_commonLength inSecond inFirst
  · rcases exists_length_eq_commonLength second first with ⟨common, inSecond, inFirst, lengthEq⟩
    rw [← lengthEq]
    exact length_le_commonLength inFirst inSecond

theorem commonLength_le_length_left (first second : List Char) :
    commonLength first second ≤ first.length := by
  rcases exists_length_eq_commonLength first second with ⟨common, inFirst, -, lengthEq⟩
  rw [← lengthEq]
  exact inFirst.length_le

theorem commonLength_of_sublist (sublist : first.Sublist second) :
    commonLength first second = first.length := by
  apply le_antisymm
  · exact commonLength_le_length_left first second
  · exact length_le_commonLength (List.Sublist.refl first) sublist

theorem commonLength_mono {first' second' : List Char} (inFirst : first.Sublist first')
    (inSecond : second.Sublist second') :
    commonLength first second ≤ commonLength first' second' := by
  rcases exists_length_eq_commonLength first second with ⟨common, sublist, sublist', lengthEq⟩
  rw [← lengthEq]
  exact length_le_commonLength (sublist.trans inFirst) (sublist'.trans inSecond)

@[simp]
theorem commonLength_nil_left (second : List Char) : commonLength [] second = 0 := by
  rcases exists_length_eq_commonLength [] second with ⟨common, inFirst, -, lengthEq⟩
  rw [← lengthEq, List.sublist_nil.mp inFirst, List.length_nil]

@[simp]
theorem commonLength_nil_right (first : List Char) : commonLength first [] = 0 := by
  rw [commonLength_comm, commonLength_nil_left]

/-! ### The last letters -/

theorem sublist_concat {letter : Char} (sublist : common.Sublist (first ++ [letter])) :
    common.Sublist first ∨ ∃ shorter, common = shorter ++ [letter] ∧ shorter.Sublist first := by
  rcases List.sublist_append_iff.mp sublist with ⟨shorter, last, rfl, inFirst, inLast⟩
  rcases List.sublist_singleton.mp inLast with rfl | rfl
  · left
    simpa using inFirst
  · right
    exact ⟨shorter, rfl, inFirst⟩

theorem dropLast_sublist_of_concat {letter : Char} (sublist : common.Sublist (first ++ [letter])) :
    common.dropLast.Sublist first := by
  rcases sublist_concat sublist with inFirst | ⟨shorter, rfl, inFirst⟩
  · exact common.dropLast_sublist.trans inFirst
  · simpa using inFirst

/-- Matching two equal last letters loses nothing. -/
theorem commonLength_concat_self (first second : List Char) (letter : Char) :
    commonLength (first ++ [letter]) (second ++ [letter]) = commonLength first second + 1 := by
  apply le_antisymm
  · rcases exists_length_eq_commonLength (first ++ [letter]) (second ++ [letter]) with
      ⟨common, inFirst, inSecond, lengthEq⟩
    rw [← lengthEq]
    -- Whatever is common loses its last letter at most when both last letters are dropped.
    have bound := length_le_commonLength (dropLast_sublist_of_concat inFirst)
      (dropLast_sublist_of_concat inSecond)
    rw [List.length_dropLast] at bound
    omega
  · rcases exists_length_eq_commonLength first second with ⟨common, inFirst, inSecond, lengthEq⟩
    have bound := length_le_commonLength ((List.append_sublist_append_right [letter]).mpr inFirst)
      ((List.append_sublist_append_right [letter]).mpr inSecond)
    rw [List.length_append, List.length_singleton] at bound
    omega

/-- Of two different last letters, one takes no part. -/
theorem commonLength_concat_of_ne (first second : List Char) {letter other : Char}
    (different : letter ≠ other) :
    commonLength (first ++ [letter]) (second ++ [other]) =
      max (commonLength (first ++ [letter]) second) (commonLength first (second ++ [other])) := by
  apply le_antisymm
  · rcases exists_length_eq_commonLength (first ++ [letter]) (second ++ [other]) with
      ⟨common, inFirst, inSecond, lengthEq⟩
    rw [← lengthEq, le_max_iff]
    rcases sublist_concat inSecond with inSecond' | ⟨shorter, rfl, -⟩
    · left
      exact length_le_commonLength inFirst inSecond'
    · right
      rcases sublist_concat inFirst with inFirst' | ⟨shorter', same, -⟩
      · exact length_le_commonLength inFirst' inSecond
      · have sameLetter : other = letter := by
          simpa using congrArg List.getLast? same
        exact absurd sameLetter.symm different
  · apply max_le
    · exact commonLength_mono (List.Sublist.refl _) (List.sublist_append_left second [other])
    · exact commonLength_mono (List.sublist_append_left first [letter]) (List.Sublist.refl _)

end

end Lookalike
