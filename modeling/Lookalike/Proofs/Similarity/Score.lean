import Lookalike.Proofs.Number.Nearest
import Lookalike.Proofs.Similarity.LengthTest
import Lookalike.Proofs.Similarity.Table

/-!
# The score is the rounded ratio of a longest common subsequence

The two rows end with the greatest common length, whichever text is the longer one, and the
division by the longer length rounds to the nearest number.
-/

namespace Lookalike

theorem score_eq (first second : String) :
    score first second =
      if first = "" ∨ second = "" then .finite 0
      else .ofRatio false (commonLength first.toList second.toList)
        (max first.length second.length) := by
  have emptyIff (text : String) : text.toList = [] ↔ text = "" := String.toList_eq_nil_iff
  simp only [← String.length_toList]
  rcases le_or_gt second.toList.length first.toList.length with le | gt
  · simp only [score, le, if_true, List.isEmpty_iff, emptyIff, lcsLength_eq_commonLength,
      max_eq_left le]
  · simp only [score, not_le.mpr gt, if_false, List.isEmpty_iff, emptyIff,
      lcsLength_eq_commonLength, max_eq_right gt.le]
    rw [commonLength_comm]
    exact if_congr or_comm rfl rfl

theorem score_eq_ofRatio_commonLength {first second : String} (firstNe : first ≠ "")
    (secondNe : second ≠ "") :
    score first second = .ofRatio false (commonLength first.toList second.toList)
      (max first.length second.length) := by
  rw [score_eq, if_neg (by simp [firstNe, secondNe])]

theorem score_comm (first second : String) : score first second = score second first := by
  rw [score_eq, score_eq, commonLength_comm, max_comm]
  exact if_congr or_comm rfl rfl

theorem score_ne_nan (first second : String) : score first second ≠ .nan := by
  rw [score_eq]
  split_ifs
  · exact Binary64.noConfusion
  · exact Binary64.ofRatio_ne_nan _ _ _

theorem commonLength_le_max (first second : List Char) :
    commonLength first second ≤ max first.length second.length :=
  (commonLength_le_length_left first second).trans (le_max_left _ _)

/-- The score of two texts is zero when one is empty, and otherwise the floating-point number
nearest to the length of a longest common subsequence over the longer length. -/
theorem score_nearest_longest_ratio (first second : String) :
    (first = "" ∨ second = "" → score first second = .finite 0) ∧
      (first ≠ "" → second ≠ "" →
        ∃ (length : ℕ) (value : ℚ),
          IsGreatest
            {count | ∃ common : List Char, common.Sublist first.toList ∧
              common.Sublist second.toList ∧ common.length = count} length ∧
          score first second = .finite value ∧
          Binary64.IsNearest value (length / (max first.length second.length : ℕ))) := by
  constructor
  · intro empty
    rw [score_eq, if_pos empty]
  · intro firstNe secondNe
    have longerPos : 0 < max first.length second.length := by
      have firstPos : 0 < first.length := by
        simpa [Nat.pos_iff_ne_zero] using firstNe
      omega
    have le : commonLength first.toList second.toList ≤ max first.length second.length := by
      rw [← String.length_toList, ← String.length_toList]
      exact commonLength_le_max first.toList second.toList
    rcases Binary64.exists_ofRatio_eq_nearest longerPos le with ⟨value, ratioEq, nearest⟩
    refine ⟨commonLength first.toList second.toList, value, ?_, ?_, nearest⟩
    · exact isGreatest_commonLength first.toList second.toList
    · rw [score_eq, if_neg (by simp [firstNe, secondNe]), ratioEq]

/-- Half of the longer text is common. -/
example : score "buffer" "fer" = .finite (1 / 2) := by
  cbv

end Lookalike
