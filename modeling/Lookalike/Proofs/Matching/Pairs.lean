import Lookalike.Matching
import Mathlib.Data.List.FinRange

/-!
# Pairs by their indices

The pairs of a list are made by recursion on it.  Here they are told by indices: all
pairs of indices of which the first is smaller, in lexicographic order, whatever members
stand there.
-/

namespace Lookalike

/-- All pairs of indices below a bound of which the first is smaller, in lexicographic
order. -/
def indexPairs (count : Nat) : List (Fin count × Fin count) :=
  (List.finRange count).flatMap fun first =>
    ((List.finRange count).filter (first < ·)).map fun second => (first, second)

theorem mem_indexPairs {count : Nat} {pair : Fin count × Fin count} :
    pair ∈ indexPairs count ↔ pair.1 < pair.2 := by
  simp [indexPairs, Prod.ext_iff]

theorem nodup_indexPairs (count : Nat) : (indexPairs count).Nodup := by
  rw [indexPairs, List.nodup_flatMap]
  constructor
  · intro first _
    apply List.Nodup.map
    · intro second second' same
      exact (Prod.ext_iff.mp same).2
    · exact (List.nodup_finRange count).filter _
  · -- Pairs of different rows differ in their first index.
    refine (List.nodup_finRange count).imp fun different pair inRow inRow' => different ?_
    simp only [List.mem_map] at inRow inRow'
    obtain ⟨second, -, rfl⟩ := inRow
    obtain ⟨second', -, same⟩ := inRow'
    exact (Prod.ext_iff.mp same).1.symm

/-- Index pairs with one more member in front: those of the new member, then those that
are already known, moved on by one. -/
theorem indexPairs_succ (count : Nat) :
    indexPairs (count + 1) =
      (List.finRange count).map (fun second => (0, second.succ)) ++
        (indexPairs count).map fun pair => (pair.1.succ, pair.2.succ) := by
  have laterOfZero : (List.finRange (count + 1)).filter ((0 : Fin (count + 1)) < ·) =
      (List.finRange count).map Fin.succ := by
    rw [List.finRange_succ, List.filter_cons_of_neg (by simp), List.filter_eq_self]
    simp only [List.mem_map, decide_eq_true_eq]
    rintro _ ⟨index, -, rfl⟩
    exact index.succ_pos
  have laterOfSucc (first : Fin count) :
      (List.finRange (count + 1)).filter (first.succ < ·) =
        ((List.finRange count).filter (first < ·)).map Fin.succ := by
    rw [List.finRange_succ, List.filter_cons_of_neg (by simp), List.filter_map]
    simp [Function.comp_def]
  conv_lhs => rw [indexPairs]
  rw [List.finRange_succ, List.flatMap_cons, ← List.finRange_succ, laterOfZero]
  simp [indexPairs, List.map_flatMap, List.flatMap_map, laterOfSucc, Function.comp_def]

/-- The pairs of a list are those that its index pairs point at, in the same order. -/
theorem pairs_eq_map_indexPairs {Member : Type} (members : List Member) :
    pairs members =
      (indexPairs members.length).map fun pair => (members[pair.1], members[pair.2]) := by
  induction members with
  | nil => rfl
  | cons member members ih =>
      have laterEq : members.map (fun later => (member, later)) =
          (List.finRange members.length).map fun second => (member, members[second]) := by
        apply List.ext_getElem <;> simp
      simp only [pairs, List.length_cons]
      rw [indexPairs_succ, ih, laterEq]
      simp [Function.comp_def]

theorem mem_of_mem_pairs {Member : Type} {members : List Member} {pair : Member × Member}
    (mem : pair ∈ pairs members) : pair.1 ∈ members ∧ pair.2 ∈ members := by
  rw [pairs_eq_map_indexPairs, List.mem_map] at mem
  obtain ⟨indices, -, rfl⟩ := mem
  exact ⟨List.getElem_mem _, List.getElem_mem _⟩

end Lookalike
