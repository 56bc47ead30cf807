import Lookalike.Number
import Lookalike.Proofs.Number.Rounding

/-!
# Integers as floating-point numbers

An integer becomes the nearest floating-point number, unless that is infinite.  The least
integer for which it is infinite lies half a last bit below the power of two that follows the
greatest finite number.  An integer of two or more never becomes a number below two, and one
of zero or less never one above zero.
-/

namespace Lookalike

/-- A quotient is rounded to less than an even number as long as it is more than half a unit
below that number. -/
theorem roundHalfEven_lt_two_mul_iff (numerator bound : Nat) {half : Nat} (positive : 0 < half) :
    roundHalfEven numerator (2 * half) < 2 * bound ↔
      numerator + half < 2 * half * (2 * bound) := by
  have split := Nat.div_add_mod numerator (2 * half)
  have small := Nat.mod_lt numerator (show 0 < 2 * half by omega)
  rcases lt_trichotomy (numerator / (2 * half) + 1) (2 * bound) with lt | eq | gt
  · have room : 2 * half * (numerator / (2 * half)) + 2 * half * 2 ≤ 2 * half * (2 * bound) := by
      rw [← Nat.mul_add]
      exact Nat.mul_le_mul_left _ lt
    have above := roundHalfEven_le_succ numerator (2 * half)
    constructor <;> intro _ <;> omega
  · -- Just below the even number stands an odd one, from which a tie is rounded up.
    have whole : 2 * half * (numerator / (2 * half)) + 2 * half = 2 * half * (2 * bound) := by
      rw [← eq, Nat.mul_add, Nat.mul_one]
    simp only [roundHalfEven]
    split_ifs <;> omega
  · have enough : 2 * half * (2 * bound) ≤ 2 * half * (numerator / (2 * half)) :=
      Nat.mul_le_mul_left _ (by omega)
    have below := le_roundHalfEven numerator (2 * half)
    constructor <;> intro _ <;> omega

namespace Binary64

section

variable {number power : Nat}

/-- The leading bit of an integer tells the unit to a multiple of which it is rounded. -/
theorem lastBitExponent_one_eq (le : 2 ^ power ≤ number) (lt : number < 2 ^ (power + 1)) :
    lastBitExponent number 1 = max ((power : Int) - 52) (-1074) := by
  have positive : 0 < number := Nat.lt_of_lt_of_le (by positivity) le
  rw [lastBitExponent_eq positive Nat.one_pos, Nat.cast_one, div_one, Int.log_natCast,
    Nat.log_eq_of_pow_le_of_lt_pow le lt]

theorem lastBitExponent_two_pow_le (power : Nat) : lastBitExponent (2 ^ power) 1 ≤ power := by
  have lt : 2 ^ power < 2 ^ (power + 1) := Nat.pow_lt_pow_succ Nat.one_lt_two
  rw [lastBitExponent_one_eq le_rfl lt]
  omega

theorem rounded_le_two_pow (le : number ≤ 2 ^ power) : rounded number 1 ≤ (2 : ℚ) ^ power :=
  calc rounded number 1 ≤ rounded (2 ^ power) 1 := by
        apply rounded_mono Nat.one_pos Nat.one_pos
        gcongr
    _ ≤ 2 ^ (power : Int) :=
        rounded_le_zpow Nat.one_pos (lastBitExponent_two_pow_le power) (by simp)
    _ = 2 ^ power := zpow_natCast 2 power

theorem two_pow_le_rounded (le : 2 ^ power ≤ number) : (2 : ℚ) ^ power ≤ rounded number 1 :=
  calc (2 : ℚ) ^ power = 2 ^ (power : Int) := (zpow_natCast 2 power).symm
    _ ≤ rounded (2 ^ power) 1 :=
        zpow_le_rounded Nat.one_pos (lastBitExponent_two_pow_le power) (by simp)
    _ ≤ rounded number 1 := by
        apply rounded_mono Nat.one_pos Nat.one_pos
        gcongr

/-- Integers with the leading bit of the greatest finite numbers are rounded to multiples of
one unit. -/
theorem rounded_one_of_leading_bit (le : 2 ^ 1023 ≤ number) (lt : number < 2 ^ (1023 + 1)) :
    rounded number 1 = roundHalfEven number (2 * 2 ^ 970) * 2 ^ (971 : Int) := by
  have unitEq : lastBitExponent number 1 = 971 := lastBitExponent_one_eq le lt
  have exponentEq : (971 : Int).toNat = 970 + 1 := rfl
  rw [rounded, significand_eq_significandAt, unitEq, significandAt, if_pos (by decide),
    exponentEq, pow_succ', Nat.one_mul]

/-- The integers that round to less than the power of two behind all finite numbers. -/
theorem rounded_one_lt_iff :
    rounded number 1 < 2 ^ (1024 : Int) ↔ number + 2 ^ 970 < 2 ^ 1024 := by
  have half : (2 : Nat) ^ 1023 + 2 ^ 1023 = 2 ^ 1024 := by rw [← two_mul, ← pow_succ']
  have finer : (2 : Nat) ^ 970 ≤ 2 ^ 1023 := pow_le_pow_right₀ one_le_two (by decide)
  generalize unitEq : (2 : Nat) ^ 970 = unit at finer ⊢
  rcases Nat.lt_or_ge number (2 ^ 1023) with small | large
  · have below := rounded_le_two_pow small.le
    have powerLt : (2 : ℚ) ^ 1023 < 2 ^ 1024 := pow_lt_pow_right₀ one_lt_two (by omega)
    exact iff_of_true (below.trans_lt powerLt) (by omega)
  rcases Nat.lt_or_ge number (2 ^ (1023 + 1)) with inside | past
  · have unitPos : 0 < unit := by rw [← unitEq]; positivity
    have evenIff := roundHalfEven_lt_two_mul_iff number (2 ^ 52) unitPos
    have whole : 2 * unit * (2 * 2 ^ 52) = 2 ^ 1024 := by
      rw [← unitEq, ← pow_succ', ← pow_succ', ← pow_add]
    have powerEq : (2 : ℚ) ^ (1024 : Int) = (2 * 2 ^ 52 : Nat) * 2 ^ (971 : Int) := by
      rw [Nat.cast_mul, Nat.cast_pow, Nat.cast_ofNat, ← pow_succ', ← zpow_natCast,
        ← zpow_add₀ two_ne_zero]
      rfl
    rw [rounded_one_of_leading_bit large inside, powerEq, unitEq,
      mul_lt_mul_iff_left₀ (by positivity), Nat.cast_lt, evenIff, whole]
  · have above := two_pow_le_rounded past
    exact iff_of_false (not_lt.mpr above) (by omega)

end

/-! ### Conversion -/

/-- A rounded ratio as a rational number; one that is past all finite numbers is none. -/
theorem toRat?_ofRatio (negative : Bool) {numerator denominator : Nat}
    (positive : 0 < denominator) :
    (ofRatio negative numerator denominator).toRat? =
      if rounded numerator denominator < 2 ^ (1024 : Int) then
        some (if negative then -rounded numerator denominator else rounded numerator denominator)
      else none := by
  have zeroEq : (zero negative).toRat? = some 0 := by cases negative <;> rfl
  rcases Nat.eq_zero_or_pos numerator with rfl | numeratorPos
  · simp [ofRatio, zeroEq]
  by_cases vanishes : significand numerator denominator = 0
  · simp [ofRatio, numeratorPos.ne', vanishes, rounded, zeroEq]
  have fitsIff := rounded_lt_iff numeratorPos positive
  by_cases fits : rounded numerator denominator < 2 ^ (1024 : Int)
  · simp only [ofRatio, numeratorPos.ne', vanishes, fitsIff.mp fits, fits, if_false, if_true,
      scaleByTwo_eq, toRat?]
    cases negative <;> simp [rounded]
  · have past := not_not.mp (mt fitsIff.mpr fits)
    simp only [ofRatio, numeratorPos.ne', vanishes, past, fits, if_false, if_true, toRat?]

theorem ofRatio_ne_nan (negative : Bool) (numerator denominator : Nat) :
    ofRatio negative numerator denominator ≠ nan := by
  simp only [ofRatio, zero]
  split_ifs <;> simp

theorem ofInt?_eq (value : Int) :
    ofInt? value =
      if rounded value.natAbs 1 < 2 ^ (1024 : Int) then
        some (ofRatio (value < 0) value.natAbs 1)
      else none := by
  have ratEq :
      (ofRatio (value < 0) value.natAbs 1).toRat? =
        if rounded value.natAbs 1 < 2 ^ (1024 : Int) then _ else none :=
    toRat?_ofRatio (value < 0) Nat.one_pos
  rw [ofInt?]
  split_ifs with fits
  · rw [if_pos fits] at ratEq
    split
    case h_1 infinite => simp [infinite, toRat?] at ratEq
    case h_2 => rfl
  · rw [if_neg fits] at ratEq
    split
    case h_1 => rfl
    case h_2 number finite =>
      cases result : ofRatio (value < 0) value.natAbs 1 with
      | nan => exact absurd result (ofRatio_ne_nan _ _ _)
      | infinity negative => exact absurd result (finite negative)
      | negativeZero => simp [result, toRat?] at ratEq
      | finite quotient => simp [result, toRat?] at ratEq

/-- The integers that are too large for the format. -/
theorem ofInt?_eq_none_iff {value : Int} :
    ofInt? value = none ↔ 2 ^ 1024 ≤ value.natAbs + 2 ^ 970 := by
  rw [← not_lt, ← rounded_one_lt_iff, ofInt?_eq]
  split_ifs with fits
  · exact iff_of_false (by simp) (not_not.mpr fits)
  · exact iff_of_true rfl fits

/-- The number that an integer becomes, as a rational number. -/
theorem toRat?_of_ofInt? {value : Int} {number : Binary64}
    (converted : ofInt? value = some number) :
    number.toRat? =
      some (if value < 0 then -rounded value.natAbs 1 else rounded value.natAbs 1) := by
  rw [ofInt?_eq] at converted
  split_ifs at converted with fits
  cases converted
  rw [toRat?_ofRatio _ Nat.one_pos, if_pos fits]
  simp

theorem rounded_one_one : rounded 1 1 = 1 := by
  have above : rounded (2 ^ 0) 1 ≤ 2 ^ 0 := rounded_le_two_pow le_rfl
  have below : 2 ^ 0 ≤ rounded (2 ^ 0) 1 := two_pow_le_rounded le_rfl
  exact le_antisymm above below

/-- Only one of all integers becomes a number above zero and at most one. -/
theorem eq_one_of_toRat?_of_ofInt? {value : Int} {number : Binary64} {quotient : ℚ}
    (converted : ofInt? value = some number) (ratEq : number.toRat? = some quotient)
    (positive : 0 < quotient) (le_one : quotient ≤ 1) : value = 1 ∧ quotient = 1 := by
  rw [toRat?_of_ofInt? converted, Option.some_inj] at ratEq
  have nonneg := rounded_nonneg value.natAbs 1
  have notNegative : ¬value < 0 := by
    intro negative
    rw [if_pos negative] at ratEq
    linarith
  rw [if_neg notNegative] at ratEq
  have notZero : value.natAbs ≠ 0 := by
    intro zero
    rw [zero, rounded_zero] at ratEq
    linarith
  have notLarge : ¬2 ^ 1 ≤ value.natAbs := by
    intro large
    have two_le := two_pow_le_rounded large
    linarith
  have valueEq : value = 1 := by omega
  subst valueEq
  exact ⟨rfl, ratEq.symm.trans rounded_one_one⟩

end Binary64

end Lookalike
