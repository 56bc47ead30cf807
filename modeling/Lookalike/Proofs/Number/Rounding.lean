import Lookalike.Proofs.Number.Order
import Mathlib.Algebra.Order.Field.Power
import Mathlib.Data.Int.Log
import Mathlib.Data.Rat.Floor
import Mathlib.Tactic.FieldSimp
import Mathlib.Tactic.Linarith
import Mathlib.Tactic.Positivity
import Mathlib.Tactic.Push
import Mathlib.Tactic.Ring

/-!
# Rounding is monotone

`Binary64.ofRatio` rounds a quotient in two moves: it finds the exponent of the last bit
that the format keeps, and rounds the quotient to a multiple of that bit.  Neither move
is monotone by itself, since the unit grows with the quotient.  The proof therefore
separates quotients that share a unit, where rounding half to even is monotone, from
quotients that do not, where a power of two lies between them that both roundings
respect.
-/

namespace Lookalike

/-! ### Rounding half to even -/

theorem le_roundHalfEven (numerator denominator : Nat) :
    numerator / denominator ≤ roundHalfEven numerator denominator := by
  simp only [roundHalfEven]
  split_ifs <;> omega

theorem roundHalfEven_le_succ (numerator denominator : Nat) :
    roundHalfEven numerator denominator ≤ numerator / denominator + 1 := by
  simp only [roundHalfEven]
  split_ifs <;> omega

/-- A quotient that is rounded up has a remainder of at least one half; of exactly one
half only if the quotient below is odd. -/
theorem remainder_of_roundHalfEven_eq_succ {numerator denominator : Nat}
    (up : roundHalfEven numerator denominator = numerator / denominator + 1) :
    denominator < 2 * (numerator % denominator) ∨
      denominator = 2 * (numerator % denominator) ∧ (numerator / denominator) % 2 = 1 := by
  simp only [roundHalfEven] at up
  split_ifs at up <;> omega

/-- A quotient that is rounded down has a remainder of at most one half; of exactly one
half only if it is even. -/
theorem remainder_of_roundHalfEven_eq {numerator denominator : Nat}
    (down : roundHalfEven numerator denominator = numerator / denominator) :
    2 * (numerator % denominator) < denominator ∨
      2 * (numerator % denominator) = denominator ∧ (numerator / denominator) % 2 = 0 := by
  simp only [roundHalfEven] at down
  split_ifs at down <;> omega

@[simp]
theorem roundHalfEven_one (number : Nat) : roundHalfEven number 1 = number := by
  simp [roundHalfEven, Nat.mod_one]

@[simp]
theorem roundHalfEven_zero (denominator : Nat) : roundHalfEven 0 denominator = 0 := by
  simp only [roundHalfEven, Nat.zero_div, Nat.zero_mod]
  split_ifs <;> omega

/-- Rounding half to even is monotone in the quotient, whatever fraction stands for it. -/
theorem roundHalfEven_mono {numerator denominator numerator' denominator' : Nat}
    (positive : 0 < denominator) (positive' : 0 < denominator')
    (le : numerator * denominator' ≤ numerator' * denominator) :
    roundHalfEven numerator denominator ≤ roundHalfEven numerator' denominator' := by
  have floorLe : numerator / denominator ≤ numerator' / denominator' := by
    rw [Nat.le_div_iff_mul_le positive']
    refine Nat.le_of_mul_le_mul_right ?_ positive
    calc numerator / denominator * denominator' * denominator
        = numerator / denominator * denominator * denominator' := by ring
      _ ≤ numerator * denominator' :=
          Nat.mul_le_mul_right _ (Nat.div_mul_le_self numerator denominator)
      _ ≤ numerator' * denominator := le
  rcases Nat.lt_or_eq_of_le floorLe with floorLt | floorEq
  · have below := roundHalfEven_le_succ numerator denominator
    have above := le_roundHalfEven numerator' denominator'
    omega
  · by_contra greater
    have below := roundHalfEven_le_succ numerator denominator
    have above := le_roundHalfEven numerator' denominator'
    have up := remainder_of_roundHalfEven_eq_succ
      (show roundHalfEven numerator denominator = numerator / denominator + 1 by omega)
    have down := remainder_of_roundHalfEven_eq
      (show roundHalfEven numerator' denominator' = numerator' / denominator' by omega)
    -- The quotients share their integer part, so their remainders are ordered as they are.
    have remainderLe : (numerator % denominator) * denominator' ≤
        (numerator' % denominator') * denominator := by
      have split := Nat.div_add_mod numerator denominator
      have split' := Nat.div_add_mod numerator' denominator'
      rw [← floorEq] at split'
      rw [← split, ← split'] at le
      nlinarith
    have halfLe : denominator ≤ 2 * (numerator % denominator) := by omega
    have leHalf : 2 * (numerator' % denominator') ≤ denominator' := by omega
    have low := Nat.mul_le_mul_right denominator' halfLe
    have high := Nat.mul_le_mul_right denominator leHalf
    rcases up with up | ⟨-, odd⟩
    · have low' := Nat.mul_lt_mul_of_pos_right up positive'
      nlinarith
    · rcases down with down | ⟨-, even⟩
      · have high' := Nat.mul_lt_mul_of_pos_right down positive
        nlinarith
      · omega

/-! ### Powers of two -/

theorem twoPowerFits_iff (exponent : Int) (numerator : Nat) {denominator : Nat}
    (positive : 0 < denominator) :
    twoPowerFits exponent numerator denominator = true ↔
      (2 : ℚ) ^ exponent ≤ numerator / denominator := by
  have positive' : (0 : ℚ) < denominator := by exact_mod_cast positive
  rw [le_div_iff₀ positive']
  unfold twoPowerFits
  split_ifs with nonneg
  · obtain ⟨power, rfl⟩ := Int.eq_ofNat_of_zero_le nonneg
    simp only [Int.toNat_natCast, decide_eq_true_eq, zpow_natCast]
    rw [mul_comm]
    exact_mod_cast Iff.rfl
  · obtain ⟨power, rfl⟩ := Int.eq_negSucc_of_lt_zero (not_le.mp nonneg)
    simp only [Int.neg_negSucc, Int.toNat_natCast, decide_eq_true_eq, zpow_negSucc]
    rw [inv_mul_le_iff₀ (by positivity), mul_comm]
    exact_mod_cast Iff.rfl

/-- The exponent that is found by comparing bit lengths is the binary logarithm, rounded
down. -/
theorem floorLogTwo_eq_log {numerator denominator : Nat} (positive : 0 < numerator)
    (positive' : 0 < denominator) :
    floorLogTwo numerator denominator = Int.log 2 (numerator / denominator : ℚ) := by
  have quotientPos : (0 : ℚ) < numerator / denominator := by positivity
  have low : (2 : ℚ) ^ ((numerator.log2 : Int) - denominator.log2 - 1) ≤
      numerator / denominator := by
    have numeratorGe : (2 : ℚ) ^ numerator.log2 ≤ numerator := by
      exact_mod_cast Nat.log2_self_le positive.ne'
    have denominatorLe : (denominator : ℚ) ≤ 2 ^ (denominator.log2 + 1) := by
      exact_mod_cast Nat.lt_log2_self.le
    calc (2 : ℚ) ^ ((numerator.log2 : Int) - denominator.log2 - 1)
        = 2 ^ numerator.log2 / 2 ^ (denominator.log2 + 1) := by
          rw [← zpow_natCast, ← zpow_natCast, ← zpow_sub₀ two_ne_zero]
          congr 1
          push_cast
          ring
      _ ≤ numerator / denominator := by gcongr
  have high : (numerator / denominator : ℚ) <
      2 ^ ((numerator.log2 : Int) - denominator.log2 + 1) := by
    have numeratorLt : (numerator : ℚ) < 2 ^ (numerator.log2 + 1) := by
      exact_mod_cast Nat.lt_log2_self
    have denominatorGe : (2 : ℚ) ^ denominator.log2 ≤ denominator := by
      exact_mod_cast Nat.log2_self_le positive'.ne'
    calc (numerator / denominator : ℚ)
        < 2 ^ (numerator.log2 + 1) / 2 ^ denominator.log2 := by gcongr
      _ = 2 ^ ((numerator.log2 : Int) - denominator.log2 + 1) := by
          rw [← zpow_natCast, ← zpow_natCast, ← zpow_sub₀ two_ne_zero]
          congr 1
          push_cast
          ring
  have logGe := (Int.zpow_le_iff_le_log Nat.one_lt_two quotientPos).mp low
  have logLt := (Int.lt_zpow_iff_log_lt Nat.one_lt_two quotientPos).mp high
  have fitsIff := twoPowerFits_iff ((numerator.log2 : Int) - denominator.log2) numerator
    positive'
  rw [← Nat.cast_ofNat (R := ℚ), Int.zpow_le_iff_le_log Nat.one_lt_two quotientPos] at fitsIff
  simp only [floorLogTwo]
  split_ifs with fits
  · have := fitsIff.mp fits
    omega
  · have := mt fitsIff.mpr fits
    omega

theorem scaleByTwo_eq (numerator exponent : Int) :
    scaleByTwo numerator exponent = numerator * (2 : ℚ) ^ exponent := by
  unfold scaleByTwo
  split_ifs with nonneg
  · obtain ⟨power, rfl⟩ := Int.eq_ofNat_of_zero_le nonneg
    simp
  · obtain ⟨power, rfl⟩ := Int.eq_negSucc_of_lt_zero (not_le.mp nonneg)
    simp [Rat.mkRat_eq_div, zpow_negSucc, div_eq_mul_inv]

theorem exists_zpow_eq_mul_zpow {unit exponent : Int} (coarse : unit ≤ exponent) :
    ∃ power : Nat, (2 : ℚ) ^ exponent = (2 ^ power : Nat) * 2 ^ unit := by
  obtain ⟨power, powerEq⟩ := Int.eq_ofNat_of_zero_le (sub_nonneg.mpr coarse)
  refine ⟨power, ?_⟩
  push_cast
  rw [← zpow_natCast, ← zpow_add₀ two_ne_zero]
  congr 1
  omega

/-! ### Rounding to a given last bit -/

theorem roundHalfEven_le {numerator denominator bound : Nat} (positive : 0 < denominator)
    (le : numerator ≤ bound * denominator) : roundHalfEven numerator denominator ≤ bound := by
  have mono := roundHalfEven_mono positive Nat.one_pos (by simpa using le)
  simpa using mono

theorem le_of_mul_le_roundHalfEven {numerator denominator bound : Nat}
    (positive : 0 < denominator) (le : bound * denominator ≤ numerator) :
    bound ≤ roundHalfEven numerator denominator := by
  have mono := roundHalfEven_mono Nat.one_pos positive (by simpa using le)
  simpa using mono

namespace Binary64

/-- The significand of a ratio that is rounded to a multiple of `2 ^ exponent`. -/
def significandAt (exponent : Int) (numerator denominator : Nat) : Nat :=
  if 0 ≤ exponent then roundHalfEven numerator (denominator * 2 ^ exponent.toNat)
  else roundHalfEven (numerator * 2 ^ (-exponent).toNat) denominator

theorem significand_eq_significandAt (numerator denominator : Nat) :
    significand numerator denominator =
      significandAt (lastBitExponent numerator denominator) numerator denominator := rfl

section SignificandAt

variable {exponent : Int} {numerator denominator numerator' denominator' : Nat}

theorem significandAt_mono (positive : 0 < denominator) (positive' : 0 < denominator')
    (le : (numerator / denominator : ℚ) ≤ numerator' / denominator') :
    significandAt exponent numerator denominator ≤
      significandAt exponent numerator' denominator' := by
  have productsLe : numerator * denominator' ≤ numerator' * denominator := by
    rw [div_le_div_iff₀ (by exact_mod_cast positive) (by exact_mod_cast positive')] at le
    exact_mod_cast le
  unfold significandAt
  split_ifs
  · apply roundHalfEven_mono (by positivity) (by positivity)
    calc numerator * (denominator' * 2 ^ exponent.toNat)
        = numerator * denominator' * 2 ^ exponent.toNat := by ring
      _ ≤ numerator' * denominator * 2 ^ exponent.toNat := Nat.mul_le_mul_right _ productsLe
      _ = numerator' * (denominator * 2 ^ exponent.toNat) := by ring
  · apply roundHalfEven_mono positive positive'
    calc numerator * 2 ^ (-exponent).toNat * denominator'
        = numerator * denominator' * 2 ^ (-exponent).toNat := by ring
      _ ≤ numerator' * denominator * 2 ^ (-exponent).toNat :=
          Nat.mul_le_mul_right _ productsLe
      _ = numerator' * 2 ^ (-exponent).toNat * denominator := by ring

/-- A multiple of the last bit that bounds a ratio from above bounds its rounding. -/
theorem significandAt_le {bound : Nat} (positive : 0 < denominator)
    (le : (numerator / denominator : ℚ) ≤ bound * 2 ^ exponent) :
    significandAt exponent numerator denominator ≤ bound := by
  rw [div_le_iff₀ (by exact_mod_cast positive)] at le
  unfold significandAt
  split_ifs with nonneg
  · obtain ⟨power, rfl⟩ := Int.eq_ofNat_of_zero_le nonneg
    apply roundHalfEven_le (by positivity)
    simp only [Int.toNat_natCast]
    rw [zpow_natCast, mul_assoc, mul_comm (_ ^ _)] at le
    exact_mod_cast le
  · obtain ⟨power, rfl⟩ := Int.eq_negSucc_of_lt_zero (not_le.mp nonneg)
    apply roundHalfEven_le positive
    simp only [Int.neg_negSucc, Int.toNat_natCast]
    rw [zpow_negSucc, mul_right_comm, ← div_eq_mul_inv, le_div_iff₀ (by positivity)] at le
    exact_mod_cast le

/-- A multiple of the last bit that bounds a ratio from below bounds its rounding. -/
theorem le_significandAt {bound : Nat} (positive : 0 < denominator)
    (le : bound * 2 ^ exponent ≤ (numerator / denominator : ℚ)) :
    bound ≤ significandAt exponent numerator denominator := by
  rw [le_div_iff₀ (by exact_mod_cast positive)] at le
  unfold significandAt
  split_ifs with nonneg
  · obtain ⟨power, rfl⟩ := Int.eq_ofNat_of_zero_le nonneg
    apply le_of_mul_le_roundHalfEven (by positivity)
    simp only [Int.toNat_natCast]
    rw [zpow_natCast, mul_assoc, mul_comm (_ ^ _)] at le
    exact_mod_cast le
  · obtain ⟨power, rfl⟩ := Int.eq_negSucc_of_lt_zero (not_le.mp nonneg)
    apply le_of_mul_le_roundHalfEven positive
    simp only [Int.neg_negSucc, Int.toNat_natCast]
    rw [zpow_negSucc, mul_right_comm, ← div_eq_mul_inv, div_le_iff₀ (by positivity)] at le
    exact_mod_cast le

end SignificandAt

/-! ### Rounding to the format -/

/-- A ratio rounded to the format's precision, as if exponents had no upper end. -/
def rounded (numerator denominator : Nat) : ℚ :=
  significand numerator denominator * 2 ^ lastBitExponent numerator denominator

theorem rounded_nonneg (numerator denominator : Nat) : 0 ≤ rounded numerator denominator := by
  unfold rounded
  positivity

@[simp]
theorem rounded_zero (denominator : Nat) : rounded 0 denominator = 0 := by
  simp [rounded, significand]

section Rounded

variable {numerator denominator : Nat}

/-- The unit in the last place of a positive ratio is `2 ^ 52` times smaller than its
greatest power of two, unless that is below the format's least unit. -/
theorem lastBitExponent_eq (positive : 0 < numerator) (positive' : 0 < denominator) :
    lastBitExponent numerator denominator =
      max (Int.log 2 (numerator / denominator : ℚ) - 52) (-1074) := by
  rw [lastBitExponent, floorLogTwo_eq_log positive positive', leastExponent]

/-- A power of two that is no finer than the last bit bounds a ratio's rounding from
above as soon as it bounds the ratio. -/
theorem rounded_le_zpow {exponent : Int} (positive : 0 < denominator)
    (coarse : lastBitExponent numerator denominator ≤ exponent)
    (le : (numerator / denominator : ℚ) ≤ 2 ^ exponent) :
    rounded numerator denominator ≤ 2 ^ exponent := by
  obtain ⟨power, split⟩ := exists_zpow_eq_mul_zpow coarse
  rw [split] at le ⊢
  rw [rounded, significand_eq_significandAt]
  gcongr
  exact significandAt_le positive le

/-- A power of two that is no finer than the last bit bounds a ratio's rounding from
below as soon as it bounds the ratio. -/
theorem zpow_le_rounded {exponent : Int} (positive : 0 < denominator)
    (coarse : lastBitExponent numerator denominator ≤ exponent)
    (le : 2 ^ exponent ≤ (numerator / denominator : ℚ)) :
    2 ^ exponent ≤ rounded numerator denominator := by
  obtain ⟨power, split⟩ := exists_zpow_eq_mul_zpow coarse
  rw [split] at le ⊢
  rw [rounded, significand_eq_significandAt]
  gcongr
  exact le_significandAt positive le

/-- Rounding is monotone in the quotient. -/
theorem rounded_mono {numerator' denominator' : Nat} (positive : 0 < denominator)
    (positive' : 0 < denominator')
    (le : (numerator / denominator : ℚ) ≤ numerator' / denominator') :
    rounded numerator denominator ≤ rounded numerator' denominator' := by
  rcases Nat.eq_zero_or_pos numerator with rfl | numeratorPos
  · rw [rounded_zero]
    exact rounded_nonneg numerator' denominator'
  have quotientPos : (0 : ℚ) < numerator / denominator := by positivity
  have numeratorPos' : 0 < numerator' := by
    rcases Nat.eq_zero_or_pos numerator' with rfl | numeratorPos'
    · simp only [Nat.cast_zero, zero_div] at le
      exact absurd quotientPos (not_lt.mpr le)
    · exact numeratorPos'
  have logLe := Int.log_mono_right (b := 2) quotientPos le
  have unitEq := lastBitExponent_eq numeratorPos positive
  have unitEq' := lastBitExponent_eq numeratorPos' positive'
  rcases lt_or_ge (lastBitExponent numerator denominator)
      (lastBitExponent numerator' denominator') with finer | same
  · -- The units differ, so a power of two lies between the quotients.
    have below : (numerator / denominator : ℚ) ≤
        2 ^ Int.log 2 (numerator' / denominator' : ℚ) := by
      refine (Int.lt_zpow_succ_log_self (R := ℚ) Nat.one_lt_two _).le.trans ?_
      exact zpow_le_zpow_right₀ one_le_two (by omega)
    have above : (2 : ℚ) ^ Int.log 2 (numerator' / denominator' : ℚ) ≤
        numerator' / denominator' :=
      Int.zpow_log_le_self Nat.one_lt_two (quotientPos.trans_le le)
    calc rounded numerator denominator
        ≤ 2 ^ Int.log 2 (numerator' / denominator' : ℚ) :=
          rounded_le_zpow positive (by omega) below
      _ ≤ rounded numerator' denominator' := zpow_le_rounded positive' (by omega) above
  · have unitSame : lastBitExponent numerator denominator =
        lastBitExponent numerator' denominator' := by omega
    simp only [rounded, significand_eq_significandAt, unitSame]
    gcongr
    exact significandAt_mono positive positive' le

theorem significand_le (positive : 0 < numerator) (positive' : 0 < denominator) :
    significand numerator denominator ≤ 2 ^ 53 := by
  have unitEq := lastBitExponent_eq positive positive'
  rw [significand_eq_significandAt]
  apply significandAt_le positive'
  calc (numerator / denominator : ℚ)
      ≤ 2 ^ (Int.log 2 (numerator / denominator : ℚ) + 1) :=
        (Int.lt_zpow_succ_log_self (R := ℚ) Nat.one_lt_two _).le
    _ ≤ 2 ^ (53 + lastBitExponent numerator denominator) :=
        zpow_le_zpow_right₀ one_le_two (by omega)
    _ = (2 ^ 53 : Nat) * 2 ^ lastBitExponent numerator denominator := by
        rw [zpow_add₀ two_ne_zero]
        norm_num

/-- Whether a rounded ratio is past the greatest finite number, told by its exponent and
its significand. -/
theorem rounded_lt_iff (positive : 0 < numerator) (positive' : 0 < denominator) :
    rounded numerator denominator < 2 ^ (1024 : Int) ↔
      ¬(greatestExponent < lastBitExponent numerator denominator ∨
        lastBitExponent numerator denominator = greatestExponent ∧
          2 ^ precision ≤ significand numerator denominator) := by
  have quotientPos : (0 : ℚ) < numerator / denominator := by positivity
  have unitEq := lastBitExponent_eq positive positive'
  have powerEq : (2 : ℚ) ^ (1024 : Int) = 2 ^ 53 * 2 ^ (971 : Int) := by
    rw [← zpow_natCast, ← zpow_add₀ two_ne_zero]
    norm_num
  simp only [greatestExponent, precision, not_or, not_and, not_lt, not_le]
  rcases lt_trichotomy (lastBitExponent numerator denominator) 971 with below | same | above
  · have lt : rounded numerator denominator < 2 ^ (1024 : Int) := by
      have digitsLe : (significand numerator denominator : ℚ) ≤ 2 ^ 53 := by
        exact_mod_cast significand_le positive positive'
      rw [powerEq, rounded]
      have unitLt := zpow_lt_zpow_right₀ (one_lt_two (α := ℚ)) below
      calc (significand numerator denominator : ℚ) * 2 ^ lastBitExponent numerator denominator
          ≤ 2 ^ 53 * 2 ^ lastBitExponent numerator denominator := by gcongr
        _ < 2 ^ 53 * 2 ^ (971 : Int) := by gcongr
    simp only [lt, true_iff]
    omega
  · rw [powerEq, rounded, same, mul_lt_mul_iff_left₀ (by positivity)]
    simp only [le_refl, forall_const, true_and]
    exact_mod_cast Iff.rfl
  · have le : (2 : ℚ) ^ (1024 : Int) ≤ rounded numerator denominator :=
      calc (2 : ℚ) ^ (1024 : Int)
          ≤ 2 ^ Int.log 2 (numerator / denominator : ℚ) :=
            zpow_le_zpow_right₀ one_le_two (by omega)
        _ ≤ rounded numerator denominator :=
            zpow_le_rounded positive' (by omega)
              (Int.zpow_log_le_self Nat.one_lt_two quotientPos)
    simp only [not_lt.mpr le, false_iff]
    omega

/-- Dividing and rounding, with the format's upper end taken into account. -/
theorem ofRatio_eq (positive : 0 < denominator) :
    ofRatio false numerator denominator =
      if rounded numerator denominator < 2 ^ (1024 : Int) then
        finite (rounded numerator denominator)
      else infinity false := by
  rcases Nat.eq_zero_or_pos numerator with rfl | numeratorPos
  · simp [ofRatio, zero]
  have fitsIff := rounded_lt_iff numeratorPos positive
  simp only [ofRatio, numeratorPos.ne', if_false, zero, scaleByTwo_eq, Bool.false_eq_true,
    Int.cast_natCast]
  split_ifs with vanishes fits fits fits
  · simp [rounded, vanishes]
  · simp [rounded, vanishes] at fits
  · tauto
  · rfl
  · rfl
  · tauto

end Rounded

/-- Division with rounding is monotone in the quotient. -/
theorem ofRatio_le_ofRatio {numerator denominator numerator' denominator' : Nat}
    (positive : 0 < denominator) (positive' : 0 < denominator')
    (le : (numerator / denominator : ℚ) ≤ numerator' / denominator') :
    (ofRatio false numerator denominator).le (ofRatio false numerator' denominator') = true := by
  have mono := rounded_mono positive positive' le
  rw [ofRatio_eq positive, ofRatio_eq positive']
  split_ifs with fits fits' fits'
  · simpa using mono
  · rfl
  · exact absurd (mono.trans_lt fits') fits
  · rfl

end Binary64

end Lookalike
