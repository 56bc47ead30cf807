import Lookalike.Proofs.Number.Integers
import Mathlib.Tactic.Qify

/-!
# Division rounds to the nearest number

The numbers of the format are the multiples of powers of two with few digits.  A ratio is
rounded to a multiple of its last bit, and no number of the format lies nearer to it: other
multiples of that bit do not, and numbers with a finer last bit lie below the greatest power of
two that the ratio reaches, which is itself a multiple of the bit.
-/

namespace Lookalike

/-! ### Rounding half to even -/

/-- A quotient is rounded by less than one half, or by one half to an even number. -/
theorem roundHalfEven_near_or_tie (numerator : ℕ) {denominator : ℕ} (positive : 0 < denominator) :
    2 * numerator < denominator * (2 * roundHalfEven numerator denominator + 1) ∧
        denominator * (2 * roundHalfEven numerator denominator) < 2 * numerator + denominator ∨
      roundHalfEven numerator denominator % 2 = 0 ∧
        (2 * numerator = denominator * (2 * roundHalfEven numerator denominator + 1) ∨
          denominator * (2 * roundHalfEven numerator denominator) =
            2 * numerator + denominator) := by
  have split := Nat.div_add_mod numerator denominator
  have remainderLt := Nat.mod_lt numerator positive
  simp only [roundHalfEven]
  split_ifs <;> simp only [Nat.mul_add, Nat.mul_left_comm denominator 2, Nat.mul_one] <;> omega

theorem abs_roundHalfEven_sub (numerator : ℕ) {denominator : ℕ} (positive : 0 < denominator) :
    |(roundHalfEven numerator denominator : ℚ) - numerator / denominator| < 1 / 2 ∨
      |(roundHalfEven numerator denominator : ℚ) - numerator / denominator| = 1 / 2 ∧
        roundHalfEven numerator denominator % 2 = 0 := by
  have positive' : (0 : ℚ) < denominator := by exact_mod_cast positive
  have quotientEq : (numerator : ℚ) = denominator * (numerator / denominator) :=
    (mul_div_cancel₀ _ positive'.ne').symm
  generalize (numerator / denominator : ℚ) = quotient at quotientEq ⊢
  rcases roundHalfEven_near_or_tie numerator positive with ⟨below, above⟩ | ⟨even, tie⟩
  · left
    qify at below above
    rw [quotientEq] at below above
    have quotientLt : quotient < roundHalfEven numerator denominator + 1 / 2 := by
      refine lt_of_mul_lt_mul_left ?_ positive'.le
      linarith
    have lt_quotient : (roundHalfEven numerator denominator : ℚ) < quotient + 1 / 2 := by
      refine lt_of_mul_lt_mul_left ?_ positive'.le
      linarith
    rw [abs_lt]
    constructor <;> linarith
  · right
    refine ⟨?_, even⟩
    qify at tie
    rw [quotientEq] at tie
    rcases tie with down | up
    · have quotientEq' : quotient = roundHalfEven numerator denominator + 1 / 2 := by
        refine mul_left_cancel₀ positive'.ne' ?_
        linarith
      rw [quotientEq', sub_add_cancel_left, abs_neg, abs_of_pos one_half_pos]
    · have roundedEq : (roundHalfEven numerator denominator : ℚ) = quotient + 1 / 2 := by
        refine mul_left_cancel₀ positive'.ne' ?_
        linarith
      rw [roundedEq, add_sub_cancel_left, abs_of_pos one_half_pos]

theorem abs_sub_le_of_near {value : ℚ} {digits : ℤ} (near : |digits - value| ≤ 1 / 2)
    (other : ℤ) : |digits - value| ≤ |other - value| := by
  rcases eq_or_ne other digits with rfl | different
  · rfl
  · have apart : (1 : ℚ) ≤ |(other : ℚ) - digits| := by
      exact_mod_cast Int.one_le_abs (sub_ne_zero.mpr different)
    have triangle := abs_sub_le (other : ℚ) value digits
    rw [abs_sub_comm value digits] at triangle
    linarith

/-- An integer that is as near to a value as one half a unit away at most is that integer or,
in a tie, next to it. -/
theorem eq_or_next_of_abs_sub_eq {value : ℚ} {digits other : ℤ}
    (near : |digits - value| ≤ 1 / 2) (tie : |digits - value| = |other - value|) :
    other = digits ∨
      |digits - value| = 1 / 2 ∧ (other = digits + 1 ∨ other = digits - 1) := by
  rcases eq_or_ne other digits with same | different
  · exact Or.inl same
  · right
    have apart : (1 : ℚ) ≤ |(other : ℚ) - digits| := by
      exact_mod_cast Int.one_le_abs (sub_ne_zero.mpr different)
    have triangle := abs_sub_le (other : ℚ) value digits
    rw [abs_sub_comm value digits] at triangle
    have half : |(digits : ℚ) - value| = 1 / 2 := by linarith
    refine ⟨half, ?_⟩
    have together : |other - digits| ≤ 1 := by
      have : |(other : ℚ) - digits| ≤ 1 := by linarith
      exact_mod_cast this
    rw [abs_le] at together
    omega

/-! ### Multiples of the last bit -/

namespace Binary64

theorem exists_significandAt_eq (exponent : ℤ) (numerator : ℕ) {denominator : ℕ}
    (positive : 0 < denominator) :
    ∃ numerator' denominator' : ℕ, 0 < denominator' ∧
      significandAt exponent numerator denominator = roundHalfEven numerator' denominator' ∧
      (numerator' / denominator' : ℚ) = numerator / denominator / 2 ^ exponent := by
  unfold significandAt
  split_ifs with nonneg
  · rcases Int.eq_ofNat_of_zero_le nonneg with ⟨power, rfl⟩
    refine ⟨_, _, ?_, rfl, ?_⟩
    · positivity
    · simp [div_div]
  · rcases Int.eq_negSucc_of_lt_zero (not_le.mp nonneg) with ⟨power, rfl⟩
    refine ⟨_, _, positive, rfl, ?_⟩
    simp [zpow_negSucc, div_mul_eq_mul_div]

/-- A finite number of the format: an integer of at most 53 bits, scaled by a power of two
within the range of exponents. -/
def IsRepresentable (value : ℚ) : Prop :=
  ∃ digits exponent : ℤ, |digits| < 2 ^ precision ∧ leastExponent ≤ exponent ∧
    exponent ≤ greatestExponent ∧ value = digits * 2 ^ exponent

/-- Whether a number is what a value is rounded to: no number of the format is nearer, and
where another one is as near, the two are neighbouring multiples of a power of two of which the
rounded one is even. -/
structure IsNearest (rounded value : ℚ) : Prop where
  representable : IsRepresentable rounded
  nearest : ∀ other, IsRepresentable other → |rounded - value| ≤ |other - value|
  even_of_tie : ∀ other, IsRepresentable other → |rounded - value| = |other - value| →
    other = rounded ∨
      ∃ half exponent : ℤ, rounded = (2 * half) * 2 ^ exponent ∧
        (other = (2 * half + 1) * 2 ^ exponent ∨ other = (2 * half - 1) * 2 ^ exponent)

section

variable {numerator denominator : ℕ}

theorem abs_significand_sub (numerator : ℕ) (positive : 0 < denominator) :
    |((significand numerator denominator : ℤ) : ℚ) -
        numerator / denominator / 2 ^ lastBitExponent numerator denominator| ≤ 1 / 2 ∧
      (|((significand numerator denominator : ℤ) : ℚ) -
          numerator / denominator / 2 ^ lastBitExponent numerator denominator| = 1 / 2 →
        significand numerator denominator % 2 = 0) := by
  rcases exists_significandAt_eq (lastBitExponent numerator denominator) numerator positive with
    ⟨numerator', denominator', positive', digitsEq, valueEq⟩
  rw [significand_eq_significandAt, digitsEq, ← valueEq, Int.cast_natCast]
  rcases abs_roundHalfEven_sub numerator' positive' with lt | ⟨eq, even⟩
  · exact ⟨lt.le, fun eq => absurd eq lt.ne⟩
  · exact ⟨eq.le, fun _ => even⟩

theorem isRepresentable_rounded (positive : 0 < numerator) (positive' : 0 < denominator)
    (fits : rounded numerator denominator < 2 ^ (1024 : ℤ)) :
    IsRepresentable (rounded numerator denominator) := by
  have unitGe : leastExponent ≤ lastBitExponent numerator denominator := le_max_right _ _
  have inRange := (rounded_lt_iff positive positive').mp fits
  have digitsLe := significand_le positive positive'
  simp only [greatestExponent, precision, not_or, not_and, not_lt, not_le] at inRange
  rcases digitsLe.lt_or_eq with digitsLt | digitsEq
  · refine ⟨significand numerator denominator, lastBitExponent numerator denominator, ?_, unitGe,
      inRange.1, by simp [rounded]⟩
    rw [abs_of_nonneg (Int.natCast_nonneg _)]
    exact_mod_cast digitsLt
  · -- One digit too many: the last of them is zero.
    have unitNe : lastBitExponent numerator denominator ≠ 971 := by
      intro unitEq
      have digitsLt := inRange.2 unitEq
      omega
    refine ⟨2 ^ 52, lastBitExponent numerator denominator + 1, by norm_num [precision],
      unitGe.trans (by omega), by simp only [greatestExponent]; omega, ?_⟩
    rw [rounded, digitsEq, zpow_add_one₀ two_ne_zero]
    norm_num
    ring

/-- A number of the format is a multiple of the last bit of a ratio, or it is below the greatest
power of two that the ratio reaches. -/
theorem multiple_or_lt (positive : 0 < numerator) (positive' : 0 < denominator)
    {digits exponent : ℤ} (digitsLt : |digits| < 2 ^ precision)
    (unitGe : leastExponent ≤ exponent) :
    (∃ digits' : ℤ,
        (digits : ℚ) * 2 ^ exponent = digits' * 2 ^ lastBitExponent numerator denominator) ∨
      (digits : ℚ) * 2 ^ exponent < 2 ^ 52 * 2 ^ lastBitExponent numerator denominator ∧
        2 ^ 52 * 2 ^ lastBitExponent numerator denominator ≤ (numerator / denominator : ℚ) := by
  rcases le_or_gt (lastBitExponent numerator denominator) exponent with coarse | fine
  · left
    rcases exists_zpow_eq_mul_zpow coarse with ⟨power, split⟩
    refine ⟨digits * 2 ^ power, ?_⟩
    rw [split]
    push_cast
    ring
  · right
    have unitEq := lastBitExponent_eq positive positive'
    have quotientPos : (0 : ℚ) < numerator / denominator := by positivity
    have digitsLt' : (digits : ℚ) < 2 ^ 53 := by
      exact_mod_cast (le_abs_self digits).trans_lt digitsLt
    constructor
    · calc (digits : ℚ) * 2 ^ exponent
          < 2 ^ 53 * 2 ^ exponent := by gcongr
        _ ≤ 2 ^ 53 * 2 ^ (lastBitExponent numerator denominator - 1) := by
          gcongr
          · norm_num
          · omega
        _ = 2 ^ 52 * 2 ^ lastBitExponent numerator denominator := by
          rw [zpow_sub_one₀ two_ne_zero]
          ring
    · have normal : lastBitExponent numerator denominator =
          Int.log 2 (numerator / denominator : ℚ) - 52 := by
        simp only [leastExponent] at unitGe
        omega
      calc (2 : ℚ) ^ 52 * 2 ^ lastBitExponent numerator denominator
          = 2 ^ Int.log 2 (numerator / denominator : ℚ) := by
            rw [← zpow_natCast, ← zpow_add₀ two_ne_zero, normal]
            norm_num
        _ ≤ numerator / denominator := Int.zpow_log_le_self Nat.one_lt_two quotientPos

theorem abs_mul_sub {unit : ℚ} (unitPos : 0 < unit) (digits value : ℚ) :
    |digits * unit - value| = |digits - value / unit| * unit := by
  have factored : digits * unit - value = (digits - value / unit) * unit := by
    rw [sub_mul, div_mul_cancel₀ _ unitPos.ne']
  rw [factored, abs_mul, abs_of_pos unitPos]

theorem rounded_eq_int (numerator denominator : ℕ) :
    rounded numerator denominator =
      ((significand numerator denominator : ℤ) : ℚ) *
        2 ^ lastBitExponent numerator denominator := by
  simp [rounded]

theorem abs_rounded_sub_le (positive : 0 < denominator) (digits : ℤ) :
    |rounded numerator denominator - numerator / denominator| ≤
      |(digits : ℚ) * 2 ^ lastBitExponent numerator denominator - numerator / denominator| := by
  have unitPos : (0 : ℚ) < 2 ^ lastBitExponent numerator denominator := by positivity
  rw [rounded_eq_int, abs_mul_sub unitPos, abs_mul_sub unitPos]
  apply mul_le_mul_of_nonneg_right _ unitPos.le
  exact abs_sub_le_of_near (abs_significand_sub numerator positive).1 digits

/-- A multiple of the last bit that is as near is the rounded ratio itself or, next to it, an
odd multiple where the rounded ratio is an even one. -/
theorem eq_or_tie_of_abs_rounded_sub_eq (positive : 0 < denominator) {digits : ℤ}
    (tie : |rounded numerator denominator - numerator / denominator| =
      |(digits : ℚ) * 2 ^ lastBitExponent numerator denominator - numerator / denominator|) :
    (digits : ℚ) * 2 ^ lastBitExponent numerator denominator = rounded numerator denominator ∨
      ∃ half : ℤ,
        rounded numerator denominator =
          (2 * half) * 2 ^ lastBitExponent numerator denominator ∧
        (digits = 2 * half + 1 ∨ digits = 2 * half - 1) := by
  have unitPos : (0 : ℚ) < 2 ^ lastBitExponent numerator denominator := by positivity
  rcases abs_significand_sub numerator positive with ⟨near, even_of_half⟩
  rw [rounded_eq_int, abs_mul_sub unitPos, abs_mul_sub unitPos] at tie
  rcases eq_or_next_of_abs_sub_eq near (mul_right_cancel₀ unitPos.ne' tie) with
    same | ⟨half, next⟩
  · left
    rw [same, rounded_eq_int]
  · right
    rcases Nat.dvd_of_mod_eq_zero (even_of_half half) with ⟨digits', digitsEq⟩
    refine ⟨digits', ?_, ?_⟩
    · rw [rounded_eq_int, digitsEq]
      push_cast
      rfl
    · omega

/-- A number below a power of two that the ratio reaches is less near than what the ratio is
rounded to. -/
theorem abs_rounded_sub_lt (positive : 0 < denominator) {other : ℚ}
    (below : other < 2 ^ 52 * 2 ^ lastBitExponent numerator denominator)
    (reached : 2 ^ 52 * 2 ^ lastBitExponent numerator denominator ≤
      (numerator / denominator : ℚ)) :
    |rounded numerator denominator - numerator / denominator| <
      |other - numerator / denominator| := by
  have powerLe : |rounded numerator denominator - numerator / denominator| ≤
      |((2 ^ 52 : ℤ) : ℚ) * 2 ^ lastBitExponent numerator denominator -
        numerator / denominator| :=
    abs_rounded_sub_le positive (2 ^ 52)
  rw [Int.cast_pow, Int.cast_ofNat] at powerLe
  rw [abs_of_nonpos (sub_nonpos.mpr reached)] at powerLe
  rw [abs_of_neg (sub_neg.mpr (below.trans_le reached))]
  linarith

/-- A ratio within the range of the format is rounded to the nearest number. -/
theorem isNearest_rounded (positive : 0 < numerator) (positive' : 0 < denominator)
    (fits : rounded numerator denominator < 2 ^ (1024 : ℤ)) :
    IsNearest (rounded numerator denominator) (numerator / denominator) := by
  constructor
  · exact isRepresentable_rounded positive positive' fits
  · rintro other ⟨digits, exponent, digitsLt, unitGe, -, rfl⟩
    rcases multiple_or_lt positive positive' digitsLt unitGe with
      ⟨digits', multiple⟩ | ⟨below, reached⟩
    · rw [multiple]
      exact abs_rounded_sub_le positive' digits'
    · exact (abs_rounded_sub_lt positive' below reached).le
  · rintro other ⟨digits, exponent, digitsLt, unitGe, -, rfl⟩ tie
    rcases multiple_or_lt positive positive' digitsLt unitGe with
      ⟨digits', multiple⟩ | ⟨below, reached⟩
    · rw [multiple] at tie ⊢
      rcases eq_or_tie_of_abs_rounded_sub_eq positive' tie with same | ⟨half, roundedEq, next⟩
      · exact Or.inl same
      · right
        refine ⟨half, lastBitExponent numerator denominator, roundedEq, ?_⟩
        rcases next with rfl | rfl
        · left
          push_cast
          rfl
        · right
          push_cast
          rfl
    · exact absurd tie (abs_rounded_sub_lt positive' below reached).ne

end

theorem isNearest_zero : IsNearest 0 0 := by
  constructor
  · exact ⟨0, 0, by norm_num [precision], by decide, by decide, by simp⟩
  · intro other _
    simp
  · intro other _ tie
    left
    simpa [eq_comm] using tie

/-- Dividing rounds to the nearest number, as long as the quotient is at most one. -/
theorem exists_ofRatio_eq_nearest {numerator denominator : ℕ} (positive : 0 < denominator)
    (le : numerator ≤ denominator) :
    ∃ value, ofRatio false numerator denominator = finite value ∧
      IsNearest value (numerator / denominator) := by
  have quotientLe : (numerator / denominator : ℚ) ≤ (1 : ℕ) / (1 : ℕ) := by
    rw [Nat.cast_one, div_one, div_le_one (by exact_mod_cast positive)]
    exact_mod_cast le
  have fits : rounded numerator denominator < 2 ^ (1024 : ℤ) :=
    calc rounded numerator denominator
        ≤ rounded 1 1 := rounded_mono positive Nat.one_pos quotientLe
      _ = 1 := rounded_one_one
      _ < 2 ^ (1024 : ℤ) := one_lt_zpow₀ one_lt_two (by omega)
  refine ⟨rounded numerator denominator, ?_, ?_⟩
  · rw [ofRatio_eq positive, if_pos fits]
  · rcases Nat.eq_zero_or_pos numerator with rfl | numeratorPos
    · rw [rounded_zero, Nat.cast_zero, zero_div]
      exact isNearest_zero
    · exact isNearest_rounded numeratorPos positive fits

end Binary64

end Lookalike
