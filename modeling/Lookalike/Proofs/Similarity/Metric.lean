import Lookalike.Proofs.Similarity.Score
import Mathlib.Tactic.Positivity
import Mathlib.Tactic.FieldSimp

/-!
# Dissimilarity is a metric

The score of two texts rounds an exact ratio, and what that ratio leaves to one measures how far
the texts are apart.  Two common subsequences of a middle text overlap in at least as many letters
as they have together beyond the letters of that text, and the overlap is common to the two outer
texts.  From this the triangle inequality follows for whichever of the three texts is the longest,
although each ratio is taken of another length.
-/

namespace Lookalike

/-! ### Overlaps -/

/-- Two subsequences of a text overlap at least as much as they are longer together than the
text. -/
theorem exists_overlap {letters left right : List Char} (leftIn : left.Sublist letters)
    (rightIn : right.Sublist letters) :
    ∃ common : List Char, common.Sublist left ∧ common.Sublist right ∧
      left.length + right.length ≤ common.length + letters.length := by
  induction leftIn generalizing right with
  | slnil =>
      refine ⟨[], List.nil_sublist _, List.nil_sublist _, ?_⟩
      simpa using rightIn.length_le
  | @cons left letters letter leftIn ih =>
      rcases List.sublist_cons_iff.mp rightIn with rightIn' | ⟨right', rfl, rightIn'⟩
      · rcases ih rightIn' with ⟨common, inLeft, inRight, le⟩
        refine ⟨common, inLeft, inRight, ?_⟩
        rw [List.length_cons]
        omega
      · rcases ih rightIn' with ⟨common, inLeft, inRight, le⟩
        refine ⟨common, inLeft, inRight.trans (List.sublist_cons_self letter right'), ?_⟩
        simp only [List.length_cons]
        omega
  | @cons_cons left letters letter leftIn ih =>
      rcases List.sublist_cons_iff.mp rightIn with rightIn' | ⟨right', rfl, rightIn'⟩
      · rcases ih rightIn' with ⟨common, inLeft, inRight, le⟩
        refine ⟨common, inLeft.trans (List.sublist_cons_self letter left), inRight, ?_⟩
        simp only [List.length_cons]
        omega
      · rcases ih rightIn' with ⟨common, inLeft, inRight, le⟩
        refine ⟨letter :: common, inLeft.cons_cons letter, inRight.cons_cons letter, ?_⟩
        simp only [List.length_cons]
        omega

theorem commonLength_add_le (first middle last : List Char) :
    commonLength first middle + commonLength middle last ≤
      commonLength first last + middle.length := by
  rcases exists_length_eq_commonLength first middle with ⟨left, inFirst, leftIn, leftEq⟩
  rcases exists_length_eq_commonLength middle last with ⟨right, rightIn, inLast, rightEq⟩
  rcases exists_overlap leftIn rightIn with ⟨common, inLeft, inRight, le⟩
  have commonLe := length_le_commonLength (inLeft.trans inFirst) (inRight.trans inLast)
  omega

/-! ### Ratios -/

/-- The bound on two ratios if the middle length is the greatest. -/
theorem ratios_le_of_middle {overlap left right first middle last : ℚ} (firstPos : 0 < first)
    (firstLe : first ≤ middle) (lastLe : last ≤ middle) (overlapNonneg : 0 ≤ overlap)
    (le : left + right ≤ overlap + middle) :
    left / middle + right / middle ≤ 1 + overlap / max first last := by
  have middlePos : 0 < middle := firstPos.trans_le firstLe
  calc left / middle + right / middle
      = (left + right) / middle := by rw [add_div]
    _ ≤ (overlap + middle) / middle := by gcongr
    _ = 1 + overlap / middle := by rw [add_div, div_self middlePos.ne', add_comm]
    _ ≤ 1 + overlap / max first last := by
        gcongr
        exact max_le firstLe lastLe

/-- The bound on two ratios if an outer length is the greatest. -/
theorem ratios_le_of_outer {overlap left right first middle last : ℚ} (lastPos : 0 < last)
    (middleLe : middle ≤ first) (lastLe : last ≤ first) (rightLe : right ≤ last)
    (le : left + right ≤ overlap + middle) :
    left / first + right / max middle last ≤ 1 + overlap / first := by
  have firstPos : 0 < first := lastPos.trans_le lastLe
  have widthPos : 0 < max middle last := lastPos.trans_le (le_max_right middle last)
  have rightRatioLe : right / max middle last ≤ 1 :=
    (div_le_one widthPos).mpr (rightLe.trans (le_max_right middle last))
  have widthLe : max middle last ≤ first := max_le middleLe lastLe
  -- What the second ratio gains over a division by the greatest length is bounded by the
  -- difference of the two lengths.
  have gain : right / max middle last * (first - max middle last) ≤ first - middle :=
    calc right / max middle last * (first - max middle last)
        ≤ 1 * (first - max middle last) := by
          apply mul_le_mul_of_nonneg_right rightRatioLe
          linarith
      _ ≤ first - middle := by linarith [le_max_left middle last]
  have rightEq : right / max middle last * max middle last = right :=
    div_mul_cancel₀ right widthPos.ne'
  have scaled : left + right / max middle last * first ≤ first + overlap := by linarith
  calc left / first + right / max middle last
      = (left + right / max middle last * first) / first := by
        rw [add_div, mul_div_cancel_right₀ _ firstPos.ne']
    _ ≤ (first + overlap) / first := by gcongr
    _ = 1 + overlap / first := by rw [add_div, div_self firstPos.ne']

/-! ### The exact score -/

/-- The ratio that the score of two texts rounds: what the two rows end with over the length of
the longer text, and zero when a text is empty. -/
def exactScore (first second : String) : ℚ :=
  let (longer, shorter) :=
    if second.length ≤ first.length then (first.toList, second.toList)
    else (second.toList, first.toList)
  if longer.isEmpty ∨ shorter.isEmpty then 0 else lcsLength longer shorter / longer.length

/-- How far two texts are apart. -/
def dissimilarity (first second : String) : ℚ := 1 - exactScore first second

theorem exactScore_eq (first second : String) :
    exactScore first second =
      commonLength first.toList second.toList / (max first.length second.length : ℕ) := by
  simp only [exactScore, ← String.length_toList]
  rcases le_or_gt second.toList.length first.toList.length with le | gt
  · simp only [le, if_true, List.isEmpty_iff, lcsLength_eq_commonLength, max_eq_left le]
    split_ifs with empty
    · rcases empty with empty | empty <;> simp [empty]
    · rfl
  · simp only [not_le.mpr gt, if_false, List.isEmpty_iff, lcsLength_eq_commonLength,
      max_eq_right gt.le]
    rw [commonLength_comm]
    split_ifs with empty
    · rcases empty with empty | empty <;> simp [empty]
    · rfl

theorem exactScore_comm (first second : String) :
    exactScore first second = exactScore second first := by
  rw [exactScore_eq, exactScore_eq, commonLength_comm, max_comm]

theorem exactScore_le_one (first second : String) : exactScore first second ≤ 1 := by
  rw [exactScore_eq]
  apply div_le_one_of_le₀
  · rw [← String.length_toList, ← String.length_toList]
    exact_mod_cast commonLength_le_max first.toList second.toList
  · positivity

theorem exactScore_of_empty {first second : String} (empty : first = "" ∨ second = "") :
    exactScore first second = 0 := by
  rw [exactScore_eq]
  rcases empty with rfl | rfl <;> simp

/-- The score is the number nearest to the exact ratio. -/
theorem exists_score_eq_nearest (first second : String) :
    ∃ value, score first second = .finite value ∧
      Binary64.IsNearest value (exactScore first second) := by
  rw [score_eq]
  split_ifs with empty
  · refine ⟨0, rfl, ?_⟩
    rw [exactScore_of_empty empty]
    exact Binary64.isNearest_zero
  · have longerPos : 0 < max first.length second.length := by
      have firstPos : 0 < first.length := by
        simpa [Nat.pos_iff_ne_zero] using (not_or.mp empty).1
      omega
    rw [exactScore_eq]
    apply Binary64.exists_ofRatio_eq_nearest longerPos
    rw [← String.length_toList, ← String.length_toList]
    exact commonLength_le_max first.toList second.toList

/-! ### The laws of a metric -/

/-- The exact ratios of two texts to a third are bounded by that of the two. -/
theorem exactScore_add_le {first middle last : String} (firstNe : first ≠ "")
    (lastNe : last ≠ "") :
    exactScore first middle + exactScore middle last ≤ 1 + exactScore first last := by
  have positive {text : String} (ne : text ≠ "") : (0 : ℚ) < text.length := by
    have lengthPos : 0 < text.length := by simpa [Nat.pos_iff_ne_zero] using ne
    exact_mod_cast lengthPos
  have firstPos := positive firstNe
  have lastPos := positive lastNe
  have overlap : (commonLength first.toList middle.toList : ℚ) +
      commonLength middle.toList last.toList ≤
        commonLength first.toList last.toList + middle.length := by
    rw [← String.length_toList]
    exact_mod_cast commonLength_add_le first.toList middle.toList last.toList
  have leftLe : (commonLength first.toList middle.toList : ℚ) ≤ first.length := by
    rw [← String.length_toList]
    exact_mod_cast commonLength_le_length_left first.toList middle.toList
  have rightLe : (commonLength middle.toList last.toList : ℚ) ≤ last.length := by
    rw [commonLength_comm, ← String.length_toList]
    exact_mod_cast commonLength_le_length_left last.toList middle.toList
  have overlapNonneg : (0 : ℚ) ≤ commonLength first.toList last.toList := Nat.cast_nonneg _
  simp only [exactScore_eq, Nat.cast_max]
  generalize (first.length : ℚ) = firstLength at *
  generalize (middle.length : ℚ) = middleLength at *
  generalize (last.length : ℚ) = lastLength at *
  rcases le_total firstLength lastLength with firstLe | lastLe
  · rcases le_total lastLength middleLength with lastLe' | middleLe
    · rw [max_eq_right (firstLe.trans lastLe'), max_eq_left lastLe']
      exact ratios_le_of_middle firstPos (firstLe.trans lastLe') lastLe' overlapNonneg overlap
    · rw [max_eq_right middleLe, max_eq_right firstLe, add_comm, max_comm]
      rw [add_comm] at overlap
      exact ratios_le_of_outer firstPos middleLe firstLe leftLe overlap
  · rcases le_total firstLength middleLength with firstLe' | middleLe
    · rw [max_eq_right firstLe', max_eq_left (lastLe.trans firstLe')]
      exact ratios_le_of_middle firstPos firstLe' (lastLe.trans firstLe') overlapNonneg overlap
    · rw [max_eq_left middleLe, max_eq_left lastLe]
      exact ratios_le_of_outer lastPos middleLe lastLe rightLe overlap

theorem dissimilarity_triangle (first middle last : String) :
    dissimilarity first last ≤ dissimilarity first middle + dissimilarity middle last := by
  simp only [dissimilarity]
  by_cases firstEmpty : first = ""
  · rw [exactScore_of_empty (Or.inl firstEmpty), exactScore_of_empty (Or.inl firstEmpty)]
    linarith [exactScore_le_one middle last]
  by_cases lastEmpty : last = ""
  · rw [exactScore_of_empty (Or.inr lastEmpty), exactScore_of_empty (Or.inr lastEmpty)]
    linarith [exactScore_le_one first middle]
  have bound : exactScore first middle + exactScore middle last ≤ 1 + exactScore first last :=
    exactScore_add_le firstEmpty lastEmpty
  linarith

/-- Texts with all letters of the longer one in common are the same text. -/
theorem dissimilarity_eq_zero_iff {first second : String} (firstNe : first ≠ "") :
    dissimilarity first second = 0 ↔ first = second := by
  have firstPos : 0 < first.length := by simpa [Nat.pos_iff_ne_zero] using firstNe
  have longerPos : (0 : ℚ) < (max first.length second.length : ℕ) := by
    have : 0 < max first.length second.length := by omega
    exact_mod_cast this
  rw [dissimilarity, sub_eq_zero, eq_comm, exactScore_eq, div_eq_one_iff_eq longerPos.ne',
    Nat.cast_inj, ← String.length_toList, ← String.length_toList]
  constructor
  · intro lengthEq
    rcases exists_length_eq_commonLength first.toList second.toList with
      ⟨common, inFirst, inSecond, commonEq⟩
    have firstEq := inFirst.eq_of_length_le (by omega)
    have secondEq := inSecond.eq_of_length_le (by omega)
    exact String.toList_inj.mp (firstEq.symm.trans secondEq)
  · rintro rfl
    rw [commonLength_of_sublist (List.Sublist.refl _), max_self]

/-- Rounding does not lift a ratio above a number of the format. -/
theorem lt_of_lt_of_isNearest {bound rounded value : ℚ}
    (representable : Binary64.IsRepresentable bound) (nearest : Binary64.IsNearest rounded value)
    (lt : bound < rounded) : bound < value := by
  by_contra! valueLe
  have near := nearest.nearest bound representable
  rw [abs_of_nonneg (by linarith), abs_of_nonneg (by linarith)] at near
  linarith

theorem lt_exactScore {bound : ℚ} (representable : Binary64.IsRepresentable bound)
    {first second : String} (lt : (Binary64.finite bound).lt (score first second) = true) :
    bound < exactScore first second := by
  rcases exists_score_eq_nearest first second with ⟨value, scoreEq, nearest⟩
  rw [scoreEq, Binary64.lt_finite, decide_eq_true_eq] at lt
  exact lt_of_lt_of_isNearest representable nearest lt

/-- What a score rounds is an exact ratio, and the distance of texts that it leaves to one is
symmetric, satisfies the triangle inequality, and is zero just for the same text twice, if no text
is empty.  So two texts that score above a floating-point number with a third one are similar to
each other. -/
theorem dissimilarity_metric (first middle last : String) :
    (∃ value, score first last = .finite value ∧
        Binary64.IsNearest value (1 - dissimilarity first last)) ∧
      dissimilarity first last = dissimilarity last first ∧
      dissimilarity first last ≤ dissimilarity first middle + dissimilarity middle last ∧
      (first ≠ "" → last ≠ "" → (dissimilarity first last = 0 ↔ first = last)) ∧
      ∀ bound, Binary64.IsRepresentable bound →
        (Binary64.finite bound).lt (score first middle) = true →
        (Binary64.finite bound).lt (score last middle) = true →
        2 * bound - 1 < exactScore first last := by
  refine ⟨?_, ?_, dissimilarity_triangle first middle last, ?_, ?_⟩
  · rw [dissimilarity, sub_sub_cancel]
    exact exists_score_eq_nearest first last
  · rw [dissimilarity, dissimilarity, exactScore_comm]
  · intro firstNe _
    exact dissimilarity_eq_zero_iff firstNe
  · intro bound representable firstAbove lastAbove
    have firstLt := lt_exactScore representable firstAbove
    have lastLt := lt_exactScore representable lastAbove
    have triangle := dissimilarity_triangle first middle last
    rw [exactScore_comm] at lastLt
    simp only [dissimilarity] at triangle
    linarith

end Lookalike
