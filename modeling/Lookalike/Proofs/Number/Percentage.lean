import Lookalike.Matching
import Lookalike.Proofs.Number.Nearest

/-!
# Whole percentages

A whole percentage is the integer part of a hundred times a score, where both the score and the
product are rounded.  The two errors together are below `2 ^ -45`.  Cutting off therefore gives
the integer part of the exact percentage, unless that is nearer than this to a whole number.
Where it is a whole number itself, the product is the one of the score that is nearest to this
many hundredths; for three of these scores the product falls short of the whole number.
-/

namespace Lookalike

namespace Binary64

section

variable {numerator denominator : ℕ}

theorem abs_rounded_sub_le_half_unit (positive : 0 < denominator) :
    |rounded numerator denominator - numerator / denominator| ≤
      2 ^ lastBitExponent numerator denominator / 2 := by
  have unitPos : (0 : ℚ) < 2 ^ lastBitExponent numerator denominator := by positivity
  rw [rounded_eq_int, abs_mul_sub unitPos]
  have near := (abs_significand_sub numerator positive).1
  calc _ ≤ 1 / 2 * (2 : ℚ) ^ lastBitExponent numerator denominator := by gcongr
    _ = _ := by ring

theorem ofRatio_congr {numerator' denominator' : ℕ} (positive : 0 < denominator)
    (positive' : 0 < denominator')
    (same : (numerator / denominator : ℚ) = numerator' / denominator') :
    ofRatio false numerator denominator = ofRatio false numerator' denominator' := by
  have roundedEq : rounded numerator denominator = rounded numerator' denominator' :=
    le_antisymm (rounded_mono positive positive' same.le) (rounded_mono positive' positive same.ge)
  rw [ofRatio_eq positive, ofRatio_eq positive', roundedEq]

/-- A ratio below a power of two is rounded by a 54th bit of that power at most, as long as that
bit is not below the format's least unit. -/
theorem abs_rounded_sub_le_zpow {exponent : ℤ} (positive : 0 < denominator)
    (normal : leastExponent + 53 ≤ exponent)
    (lt : (numerator / denominator : ℚ) < 2 ^ exponent) :
    |rounded numerator denominator - numerator / denominator| ≤ 2 ^ (exponent - 54) := by
  rcases Nat.eq_zero_or_pos numerator with rfl | numeratorPos
  · rw [rounded_zero, Nat.cast_zero, zero_div, sub_zero, abs_zero]
    positivity
  have quotientPos : (0 : ℚ) < numerator / denominator := by positivity
  have logLt := (Int.lt_zpow_iff_log_lt Nat.one_lt_two quotientPos).mp lt
  have unitEq := lastBitExponent_eq numeratorPos positive
  have unitLe : lastBitExponent numerator denominator ≤ exponent - 53 := by
    simp only [leastExponent] at normal
    omega
  calc |rounded numerator denominator - numerator / denominator|
      ≤ 2 ^ lastBitExponent numerator denominator / 2 := abs_rounded_sub_le_half_unit positive
    _ ≤ 2 ^ (exponent - 53) / 2 := by
        gcongr
        exact one_le_two
    _ = 2 ^ (exponent - 54) := by
        rw [show exponent - 53 = exponent - 54 + 1 by ring, zpow_add_one₀ two_ne_zero]
        ring

theorem rounded_le_one (positive : 0 < denominator) (le : numerator ≤ denominator) :
    rounded numerator denominator ≤ 1 := by
  rw [← rounded_one_one]
  apply rounded_mono positive Nat.one_pos
  rw [Nat.cast_one, div_one, div_le_one (by exact_mod_cast positive)]
  exact_mod_cast le

theorem ofRatio_eq_finite_rounded (positive : 0 < denominator) (le : numerator ≤ denominator) :
    ofRatio false numerator denominator = finite (rounded numerator denominator) := by
  rw [ofRatio_eq positive, if_pos]
  exact (rounded_le_one positive le).trans_lt (one_lt_zpow₀ one_lt_two (by omega))

end

theorem ofRat_eq_ofRatio {value : ℚ} (nonneg : 0 ≤ value) :
    ofRat value = ofRatio false value.num.natAbs value.den := by
  rw [ofRat, decide_eq_false (Rat.num_nonneg.mpr nonneg).not_gt]

theorem natAbs_num_div_den {value : ℚ} (nonneg : 0 ≤ value) :
    (value.num.natAbs / value.den : ℚ) = value := by
  rw [Nat.cast_natAbs, abs_of_nonneg (Rat.num_nonneg.mpr nonneg), Rat.num_div_den]

theorem exists_scale_hundred_eq {value : ℚ} (nonneg : 0 ≤ value) (le_one : value ≤ 1) :
    ∃ product, (finite value).scale 100 = finite product ∧ 0 ≤ product ∧
      |product - 100 * value| ≤ 2 ^ (-47 : ℤ) := by
  have productNonneg : 0 ≤ value * (100 : ℕ) := by positivity
  have valueEq := natAbs_num_div_den productNonneg
  have productLt : ((value * (100 : ℕ)).num.natAbs / (value * (100 : ℕ)).den : ℚ) <
      2 ^ (7 : ℤ) := by
    rw [valueEq]
    norm_num
    linarith
  have near := abs_rounded_sub_le_zpow (value * (100 : ℕ)).den_pos (by decide) productLt
  have notPast : rounded (value * (100 : ℕ)).num.natAbs (value * (100 : ℕ)).den <
      2 ^ (1024 : ℤ) :=
    calc rounded (value * (100 : ℕ)).num.natAbs (value * (100 : ℕ)).den
        ≤ rounded 100 1 := by
          apply rounded_mono (Rat.den_pos _) Nat.one_pos
          rw [valueEq, Nat.cast_one, div_one]
          exact mul_le_of_le_one_left (by positivity) le_one
      _ ≤ 2 ^ 7 := rounded_le_two_pow (by decide)
      _ < 2 ^ (1024 : ℤ) := by
          rw [← zpow_natCast]
          exact zpow_lt_zpow_right₀ one_lt_two (by decide)
  refine ⟨rounded (value * (100 : ℕ)).num.natAbs (value * (100 : ℕ)).den, ?_, ?_, ?_⟩
  · rw [scale, ofRat_eq_ofRatio productNonneg, ofRatio_eq (Rat.den_pos _), if_pos notPast]
  · exact rounded_nonneg _ _
  · rw [valueEq] at near
    rw [mul_comm 100]
    exact_mod_cast near

theorem truncate_finite {value : ℚ} (nonneg : 0 ≤ value) : (finite value).truncate = ⌊value⌋ := by
  rw [truncate, toRat?, Rat.floor_def']
  exact Int.tdiv_eq_ediv_of_nonneg (Rat.num_nonneg.mpr nonneg)

end Binary64

/-! ### Percentages of ratios -/

section

variable {numerator denominator : ℕ}

/-- A whole percentage is the integer part of a product that is almost the exact percentage. -/
theorem exists_wholePercentage_eq_floor (positive : 0 < denominator)
    (le : numerator ≤ denominator) :
    ∃ product : ℚ, wholePercentage (.ofRatio false numerator denominator) = ⌊product⌋ ∧
      |product - 100 * (numerator / denominator)| < 2 ^ (-45 : ℤ) := by
  have quotientLt : (numerator / denominator : ℚ) < 2 ^ (1 : ℤ) := by
    have quotientLe : (numerator / denominator : ℚ) ≤ 1 := by
      rw [div_le_one (by exact_mod_cast positive)]
      exact_mod_cast le
    exact quotientLe.trans_lt (by norm_num)
  have scoreNear := Binary64.abs_rounded_sub_le_zpow positive (by decide) quotientLt
  rcases Binary64.exists_scale_hundred_eq (Binary64.rounded_nonneg numerator denominator)
    (Binary64.rounded_le_one positive le) with ⟨product, productEq, nonneg, productNear⟩
  refine ⟨product, ?_, ?_⟩
  · rw [wholePercentage, Binary64.ofRatio_eq_finite_rounded positive le, productEq,
      Binary64.truncate_finite nonneg]
  · rw [abs_le] at scoreNear productNear
    rw [abs_lt]
    norm_num at scoreNear productNear ⊢
    constructor <;> linarith

/-- A whole percentage is at most one off, and only where the exact percentage is almost a whole
number. -/
theorem wholePercentage_bounds (positive : 0 < denominator) (le : numerator ≤ denominator) :
    ⌊100 * (numerator / denominator : ℚ) - 2 ^ (-45 : ℤ)⌋ ≤
        wholePercentage (.ofRatio false numerator denominator) ∧
      wholePercentage (.ofRatio false numerator denominator) ≤
        ⌊100 * (numerator / denominator : ℚ) + 2 ^ (-45 : ℤ)⌋ := by
  rcases exists_wholePercentage_eq_floor positive le with ⟨product, percentageEq, near⟩
  rw [abs_lt] at near
  rw [percentageEq]
  constructor
  · apply Int.floor_mono
    linarith
  · apply Int.floor_mono
    linarith

theorem hundredfold_eq_whole_add (positive : 0 < denominator) :
    100 * (numerator / denominator : ℚ) =
      (100 * numerator / denominator : ℕ) + (100 * numerator % denominator : ℕ) / denominator := by
  have positive' : (0 : ℚ) < denominator := by exact_mod_cast positive
  have split : (denominator * (100 * numerator / denominator) + 100 * numerator % denominator : ℕ) =
      (100 * numerator : ℚ) := by
    rw [Nat.div_add_mod]
    push_cast
    rfl
  rw [← mul_div_assoc, ← split]
  push_cast
  rw [add_div, mul_div_cancel_left₀ _ positive'.ne']

/-- Where the exact percentage is no whole number, it is cut off right, for denominators of any
realistic size. -/
theorem wholePercentage_of_not_dvd (le : numerator ≤ denominator)
    (small : denominator ≤ 2 ^ 45) (notWhole : ¬denominator ∣ 100 * numerator) :
    wholePercentage (.ofRatio false numerator denominator) =
      (100 * numerator / denominator : ℕ) := by
  have positive : 0 < denominator := by
    rw [Nat.pos_iff_ne_zero]
    rintro rfl
    rw [Nat.le_zero.mp le] at notWhole
    exact notWhole (dvd_refl 0)
  rcases exists_wholePercentage_eq_floor positive le with ⟨product, percentageEq, near⟩
  have exactEq : 100 * (numerator / denominator : ℚ) = _ := hundredfold_eq_whole_add positive
  have remainderLt := Nat.mod_lt (100 * numerator) positive
  have remainderPos : 0 < 100 * numerator % denominator :=
    Nat.pos_of_ne_zero fun zero => notWhole (Nat.dvd_of_mod_eq_zero zero)
  generalize 100 * numerator / denominator = whole at exactEq ⊢
  generalize 100 * numerator % denominator = remainder at exactEq remainderLt remainderPos
  have positive' : (0 : ℚ) < denominator := by exact_mod_cast positive
  -- The remainder keeps away from both ends by one part of the denominator.
  have unitLe : (2 : ℚ) ^ (-45 : ℤ) ≤ 1 / denominator := by
    rw [le_div_iff₀ positive', zpow_neg, inv_mul_le_one₀ (by positivity)]
    exact_mod_cast small
  have above : 1 / denominator ≤ (remainder / denominator : ℚ) := by
    gcongr
    exact_mod_cast remainderPos
  have below : (remainder / denominator : ℚ) + 1 / denominator ≤ 1 := by
    rw [← add_div, div_le_one positive']
    exact_mod_cast remainderLt
  rw [abs_lt] at near
  rw [percentageEq, Int.floor_eq_iff, Int.cast_natCast]
  constructor <;> linarith

/-- Three whole percentages come out one too small. -/
theorem wholePercentage_hundredths :
    ∀ whole < 101, wholePercentage (.ofRatio false whole 100) =
      if whole ∈ [29, 57, 58] then (whole : ℤ) - 1 else whole := by
  decide +kernel

/-- Where the exact percentage is a whole number, it is found for all but three of these
numbers. -/
theorem wholePercentage_of_whole (positive : 0 < denominator) (le : numerator ≤ denominator)
    {whole : ℕ} (wholeEq : 100 * numerator = whole * denominator) :
    wholePercentage (.ofRatio false numerator denominator) =
      if whole ∈ [29, 57, 58] then (whole : ℤ) - 1 else whole := by
  have wholeLt : whole < 101 := by
    rw [Nat.lt_succ_iff]
    apply Nat.le_of_mul_le_mul_right _ positive
    rw [← wholeEq]
    exact Nat.mul_le_mul_left 100 le
  have quotientEq : (numerator / denominator : ℚ) = whole / (100 : ℕ) := by
    rw [div_eq_div_iff (by positivity) (by norm_num)]
    rw [mul_comm] at wholeEq
    exact_mod_cast wholeEq
  rw [Binary64.ofRatio_congr positive (by decide) quotientEq]
  exact wholePercentage_hundredths whole wholeLt

end

end Lookalike
