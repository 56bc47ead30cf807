import Lookalike.Proofs.Number.Rounding
import Lookalike.Proofs.Similarity.Rows
import Lookalike.Threshold

/-!
# The length test rejects no match

The length test rounds the ratio of the two lengths, and the score rounds the ratio of
the common subsequence to the same longer length.  Both divide by the same number and
rounding is monotone, so a score can only reach what the length test admits.
-/

namespace Lookalike

/-- The score of two texts that are not empty is a rounded quotient by the longer length,
whose numerator is bounded by the shorter length. -/
theorem exists_score_eq_ofRatio {first second : String} (firstNe : first.length ≠ 0)
    (secondNe : second.length ≠ 0) :
    ∃ common ≤ min first.length second.length,
      score first second = .ofRatio false common (max first.length second.length) := by
  have firstLetters : first.toList ≠ [] := by
    intro empty
    simp [← String.length_toList, empty] at firstNe
  have secondLetters : second.toList ≠ [] := by
    intro empty
    simp [← String.length_toList, empty] at secondNe
  simp only [← String.length_toList]
  rcases le_or_gt second.toList.length first.toList.length with le | gt
  · refine ⟨lcsLength first.toList second.toList, ?_, ?_⟩
    · rw [min_eq_right le]
      exact lcsLength_le_length first.toList second.toList
    · simp [score, le, firstLetters, secondLetters]
  · refine ⟨lcsLength second.toList first.toList, ?_, ?_⟩
    · rw [min_eq_left gt.le]
      exact lcsLength_le_length second.toList first.toList
    · simp [score, not_le.mpr gt, firstLetters, secondLetters, gt.le]

/-- The score with an empty text is zero. -/
theorem score_of_empty {first second : String}
    (empty : first.length = 0 ∨ second.length = 0) : score first second = .finite 0 := by
  rw [← String.length_toList, ← String.length_toList] at empty
  simp only [List.length_eq_zero_iff] at empty
  rcases le_or_gt second.toList.length first.toList.length with le | gt
  · simp only [score, le, if_true, List.isEmpty_iff]
    rw [if_pos empty]
  · simp only [score, not_le.mpr gt, if_false, List.isEmpty_iff]
    rw [if_pos empty.symm]

/-- No score of two texts that are not empty is above the ratio of their lengths. -/
theorem score_le_lengthRatio {first second : String} (firstNe : first.length ≠ 0)
    (secondNe : second.length ≠ 0) :
    (score first second).le
      (.ofRatio false (min first.length second.length) (max first.length second.length)) =
        true := by
  have longerPos : 0 < max first.length second.length := by omega
  obtain ⟨common, commonLe, scoreEq⟩ := exists_score_eq_ofRatio firstNe secondNe
  rw [scoreEq]
  apply Binary64.ofRatio_le_ofRatio longerPos longerPos
  gcongr

/-- A score that exceeds a threshold belongs to texts that pass the length test. -/
theorem mayReach_of_isExceededBy {threshold : Threshold} {first second : String}
    (exceeds : threshold.isExceededBy (score first second) = true) :
    mayReach first.length second.length (.float threshold.number) = true := by
  by_cases empty : first.length = 0 ∨ second.length = 0
  · rw [score_of_empty empty] at exceeds
    simp only [Threshold.isExceededBy, Threshold.number, Binary64.lt_finite,
      decide_eq_true_eq] at exceeds
    exact absurd threshold.positive (not_lt.mpr exceeds.le)
  · obtain ⟨firstNe, secondNe⟩ := not_or.mp empty
    simp only [mayReach, empty, if_false]
    exact Binary64.le_of_lt_of_le exceeds (score_le_lengthRatio firstNe secondNe)

end Lookalike
