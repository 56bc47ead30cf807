import Lookalike.Number
import Lookalike.Proofs.Number.Nearest
import Lookalike.Proofs.Number.Order

/-!
# Scaling by a power of two is exact

A number of the format keeps its digits when it is multiplied by a power of two.  The product is
a number of the format again, or it is past the format's end and becomes infinite.
-/

namespace Lookalike

namespace Binary64

section

variable {numerator denominator : ℕ}

theorem rounded_eq_of_digits (positive : 0 < numerator) (positive' : 0 < denominator)
    {digits exponent : ℤ} (digitsLt : |digits| < 2 ^ precision)
    (unitGe : leastExponent ≤ exponent)
    (valueEq : (numerator / denominator : ℚ) = digits * 2 ^ exponent) :
    rounded numerator denominator = numerator / denominator := by
  rcases multiple_or_lt positive positive' digitsLt unitGe with ⟨digits', multiple⟩ | ⟨lt, le⟩
  · have near : |rounded numerator denominator - numerator / denominator| ≤
        |(digits' : ℚ) * 2 ^ lastBitExponent numerator denominator - numerator / denominator| :=
      abs_rounded_sub_le positive' digits'
    rw [← multiple, ← valueEq, sub_self, abs_zero, abs_nonpos_iff] at near
    exact sub_eq_zero.mp near
  · rw [← valueEq] at lt
    exact absurd le lt.not_ge

theorem ofRatio_true_eq (positive : 0 < denominator) (ne : rounded numerator denominator ≠ 0) :
    ofRatio true numerator denominator =
      if rounded numerator denominator < 2 ^ (1024 : ℤ) then
        finite (-rounded numerator denominator)
      else infinity true := by
  have numeratorPos : 0 < numerator := by
    rw [Nat.pos_iff_ne_zero]
    rintro rfl
    exact ne (rounded_zero denominator)
  have digitsNe : significand numerator denominator ≠ 0 := by
    intro vanishes
    exact ne (by simp [rounded, vanishes])
  have fitsIff := rounded_lt_iff numeratorPos positive
  simp only [ofRatio, numeratorPos.ne', digitsNe, if_false, if_true, scaleByTwo_eq]
  split_ifs with past fits fits
  · exact absurd past (fitsIff.mp fits)
  · rfl
  · simp [rounded]
  · exact absurd (fitsIff.mpr past) fits

end

/-- A value that takes no more digits than the format has is stored as it is, unless it is past
the format's end. -/
theorem ofRat_of_digits {value : ℚ} {digits exponent : ℤ} (digitsLt : |digits| < 2 ^ precision)
    (unitGe : leastExponent ≤ exponent) (valueEq : value = digits * 2 ^ exponent) :
    ofRat value =
      if |value| < 2 ^ (1024 : ℤ) then finite value else infinity (decide (value < 0)) := by
  have absEq : (value.num.natAbs / value.den : ℚ) = |value| := by
    rw [Nat.cast_natAbs, Int.cast_abs, ← Nat.abs_cast value.den, ← abs_div, Rat.num_div_den]
  rcases eq_or_ne value 0 with rfl | ne
  · simp [ofRat, ofRatio, zero]
  · have numeratorPos : 0 < value.num.natAbs := Int.natAbs_pos.mpr (Rat.num_ne_zero.mpr ne)
    have absDigits : (value.num.natAbs / value.den : ℚ) = |digits| * 2 ^ exponent := by
      rw [absEq, valueEq, abs_mul, abs_of_pos (a := (2 : ℚ) ^ exponent) (by positivity),
        Int.cast_abs]
    have roundedEq : rounded value.num.natAbs value.den = |value| := by
      rw [← absEq]
      apply rounded_eq_of_digits numeratorPos value.den_pos _ unitGe _
      · exact |digits|
      · rwa [abs_abs]
      · exact_mod_cast absDigits
    rcases ne.lt_or_gt with negative | positive
    · have roundedNe : rounded value.num.natAbs value.den ≠ 0 := by
        rw [roundedEq]
        exact abs_ne_zero.mpr ne
      rw [ofRat, decide_eq_true (Rat.num_neg.mpr negative),
        ofRatio_true_eq value.den_pos roundedNe, roundedEq, abs_of_neg negative, neg_neg,
        decide_eq_true negative]
    · rw [ofRat, decide_eq_false (Rat.num_pos.mpr positive).not_gt, ofRatio_eq value.den_pos,
        roundedEq, abs_of_pos positive, decide_eq_false positive.not_gt]

theorem scale_two_pow {value : ℚ} (representable : IsRepresentable value) (power : ℕ) :
    (finite value).scale (2 ^ power) =
      if |value * 2 ^ power| < 2 ^ (1024 : ℤ) then finite (value * 2 ^ power)
      else infinity (decide (value * 2 ^ power < 0)) := by
  rcases representable with ⟨digits, exponent, digitsLt, unitGe, -, rfl⟩
  have product : (digits : ℚ) * 2 ^ exponent * 2 ^ power = digits * 2 ^ (exponent + power) := by
    rw [zpow_add₀ two_ne_zero, zpow_natCast, mul_assoc]
  rw [scale, Nat.cast_pow, Nat.cast_ofNat]
  exact ofRat_of_digits digitsLt (unitGe.trans (by omega)) product

/-- An integer is at most a product with a power of two just in case it is so exactly, unless the
product is past the format's end. -/
theorem le_scale_two_pow {value : ℚ} (representable : IsRepresentable value) (power : ℕ)
    {bound : ℚ} (nonneg : 0 ≤ bound) :
    (finite bound).le ((finite value).scale (2 ^ power)) = true ↔
      bound ≤ value * 2 ^ power ∨ 2 ^ (1024 : ℤ) ≤ value * 2 ^ power := by
  rw [scale_two_pow representable]
  split_ifs with fits
  · rw [le_finite]
    have notPast := ((le_abs_self _).trans_lt fits).not_ge
    exact ⟨Or.inl, fun le => le.resolve_right notPast⟩
  · rw [not_lt] at fits
    by_cases negative : value * 2 ^ power < 0
    · have notPast : value * 2 ^ power < 2 ^ (1024 : ℤ) := negative.trans (by positivity)
      have small := negative.trans_le nonneg
      rw [decide_eq_true negative, or_iff_left notPast.not_ge, iff_false_right small.not_ge]
      exact Bool.false_ne_true
    · rw [abs_of_nonneg (not_lt.mp negative)] at fits
      rw [decide_eq_false negative]
      exact iff_of_true rfl (Or.inr fits)

end Binary64

/-- Whether a number is one that can be given: a finite float is a number of the format. -/
def Number.IsRepresentable : Number → Prop
  | .float (.finite value) => Binary64.IsRepresentable value
  | _ => True

end Lookalike
