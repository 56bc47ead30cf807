import Lookalike.Proofs.Similarity.Score

/-!
# The length test is exact

The ratio of two lengths is no empty bound: texts that repeat one letter have all letters of the
shorter one in common, and their score is that ratio, rounded as the length test rounds it.  So a
threshold above zero passes the length test just if some texts of these lengths reach it, and no
test of the lengths alone could reject more.
-/

namespace Lookalike

/-! ### Numbers that scores are compared with -/

namespace Number

/-- A number as it enters a comparison: an integer stands for itself, however large it is. -/
def unrounded : Number → Binary64
  | int value => .finite value
  | float value => value

/-- Whether a number is above zero, which NaN is not. -/
def IsPositive (number : Number) : Prop :=
  (Binary64.finite 0).lt number.unrounded = true

instance (number : Number) : Decidable number.IsPositive :=
  inferInstanceAs (Decidable (_ = true))

theorem leFloat_eq (number : Number) (bound : Binary64) :
    number.leFloat bound = number.unrounded.le bound := by
  cases number <;> rfl

theorem IsPositive.unrounded_ne_nan {number : Number} (positive : number.IsPositive) :
    number.unrounded ≠ .nan := by
  intro isNan
  rw [IsPositive, isNan] at positive
  exact absurd positive Bool.false_ne_true

theorem IsPositive.not_leFloat_zero {number : Number} (positive : number.IsPositive) :
    ¬number.leFloat (.finite 0) = true := by
  rw [leFloat_eq]
  exact (Binary64.lt_iff_not_le Binary64.noConfusion positive.unrounded_ne_nan).mp positive

end Number

/-! ### Texts of one letter -/

theorem commonLength_replicate (letter : Char) (firstLength secondLength : ℕ) :
    commonLength (List.replicate firstLength letter) (List.replicate secondLength letter) =
      min firstLength secondLength := by
  rcases le_total firstLength secondLength with le | le
  · have sublist := (List.replicate_sublist_replicate letter).mpr le
    rw [commonLength_of_sublist sublist, List.length_replicate, min_eq_left le]
  · have sublist := (List.replicate_sublist_replicate letter).mpr le
    rw [commonLength_comm, commonLength_of_sublist sublist, List.length_replicate,
      min_eq_right le]

/-- A text of a certain length that repeats one letter. -/
def repeatedLetter (length : ℕ) : String :=
  String.ofList (List.replicate length 'a')

@[simp]
theorem length_repeatedLetter (length : ℕ) : (repeatedLetter length).length = length := by
  simp [repeatedLetter]

theorem repeatedLetter_ne_empty {length : ℕ} (ne : length ≠ 0) : repeatedLetter length ≠ "" := by
  intro empty
  apply ne
  rw [← length_repeatedLetter length, empty, String.length_empty]

theorem commonLength_repeatedLetter (firstLength secondLength : ℕ) :
    commonLength (repeatedLetter firstLength).toList (repeatedLetter secondLength).toList =
      min firstLength secondLength := by
  rw [repeatedLetter, repeatedLetter, String.toList_ofList, String.toList_ofList,
    commonLength_replicate]

/-- Texts that repeat one letter reach the greatest score that their lengths allow. -/
theorem score_repeatedLetter {firstLength secondLength : ℕ} (firstNe : firstLength ≠ 0)
    (secondNe : secondLength ≠ 0) :
    score (repeatedLetter firstLength) (repeatedLetter secondLength) =
      .ofRatio false (min firstLength secondLength) (max firstLength secondLength) := by
  rw [score_eq_ofRatio_commonLength (repeatedLetter_ne_empty firstNe)
    (repeatedLetter_ne_empty secondNe), length_repeatedLetter, length_repeatedLetter,
    commonLength_repeatedLetter]

/-! ### The length test -/

section

variable {threshold : Number}

theorem mayReach_of_leFloat_score (positive : threshold.IsPositive) {first second : String}
    (reached : threshold.leFloat (score first second) = true) :
    mayReach first.length second.length threshold = true := by
  by_cases empty : first.length = 0 ∨ second.length = 0
  · rw [score_of_empty empty] at reached
    exact absurd reached positive.not_leFloat_zero
  · rcases not_or.mp empty with ⟨firstNe, secondNe⟩
    rw [mayReach, if_neg empty]
    rw [Number.leFloat_eq] at reached ⊢
    exact Binary64.le_trans reached (score_le_lengthRatio firstNe secondNe)

theorem leFloat_score_repeatedLetter {firstLength secondLength : ℕ}
    (passes : mayReach firstLength secondLength threshold = true) :
    threshold.leFloat (score (repeatedLetter firstLength) (repeatedLetter secondLength)) =
      true := by
  rw [mayReach] at passes
  split_ifs at passes with empty
  rcases not_or.mp empty with ⟨firstNe, secondNe⟩
  rwa [score_repeatedLetter firstNe secondNe]

end

/-- Lengths pass the length test just if some texts of these lengths reach the threshold.  Where
they do not pass it, all texts of these lengths score below the threshold. -/
theorem mayReach_iff_exists_texts (threshold : Number) (positive : threshold.IsPositive)
    (firstLength secondLength : ℕ) :
    (mayReach firstLength secondLength threshold = true ↔
      ∃ first second : String, first.length = firstLength ∧ second.length = secondLength ∧
        threshold.leFloat (score first second) = true) ∧
      (mayReach firstLength secondLength threshold = false →
        ∀ first second : String, first.length = firstLength → second.length = secondLength →
          (score first second).lt threshold.unrounded = true) := by
  constructor
  · constructor
    · intro passes
      refine ⟨repeatedLetter firstLength, repeatedLetter secondLength, ?_, ?_, ?_⟩
      · exact length_repeatedLetter firstLength
      · exact length_repeatedLetter secondLength
      · exact leFloat_score_repeatedLetter passes
    · rintro ⟨first, second, rfl, rfl, reached⟩
      exact mayReach_of_leFloat_score positive reached
  · rintro rejected first second rfl rfl
    rw [Binary64.lt_iff_not_le (score_ne_nan first second) positive.unrounded_ne_nan,
      ← Number.leFloat_eq]
    intro reached
    rw [mayReach_of_leFloat_score positive reached] at rejected
    exact absurd rejected.symm Bool.false_ne_true

/-- The floating-point number nearest to one tenth is reached with one letter of ten, though it
is above one tenth, and an infinite threshold is never reached. -/
theorem mayReach_iff_exists_texts_of_tenth :
    (Number.float (.ofRatio false 1 10)).IsPositive ∧
      (Number.float (.infinity false)).IsPositive ∧
      (∃ first second : String, first.length = 1 ∧ second.length = 10 ∧
        (Number.float (.ofRatio false 1 10)).leFloat (score first second) = true) ∧
      ∀ first second : String, first.length = 7 → second.length = 7 →
        (score first second).lt (.infinity false) = true := by
  have tenthPositive : (Number.float (.ofRatio false 1 10)).IsPositive := by
    decide +kernel
  have infinitePositive : (Number.float (.infinity false)).IsPositive := by
    decide
  refine ⟨tenthPositive, infinitePositive, ?_, ?_⟩
  · apply (mayReach_iff_exists_texts _ tenthPositive 1 10).1.mp
    decide +kernel
  · apply (mayReach_iff_exists_texts _ infinitePositive 7 7).2
    decide +kernel

end Lookalike
