import Lookalike.Number
import Lookalike.Proofs.Text.ControlSequence

/-!
# Texts of numbers

Numbers are written with digits, points and signs.  No way of writing them uses escape
characters.
-/

namespace Lookalike

/-! ### Digits -/

theorem escape_not_mem_toDigitsCore {base fuel number : Nat} {digits : List Char}
    (plain : '\x1b' ∉ digits) : '\x1b' ∉ Nat.toDigitsCore base fuel number digits := by
  induction fuel generalizing number digits with
  | zero => exact plain
  | succ fuel ih =>
      have digitNe : (number % base).digitChar ≠ '\x1b' := Nat.digitChar_ne _ rfl
      have further : '\x1b' ∉ (number % base).digitChar :: digits := by
        simp [digitNe.symm, plain]
      rw [Nat.toDigitsCore]
      split
      · exact further
      · exact ih further

theorem escape_not_mem_toDigits (base number : Nat) : '\x1b' ∉ Nat.toDigits base number :=
  escape_not_mem_toDigitsCore List.not_mem_nil

@[simp]
theorem isPlain_toString_nat (number : Nat) : IsPlain (toString number) := by
  rw [IsPlain, Nat.toString_eq_repr, Nat.toList_repr]
  exact escape_not_mem_toDigits 10 number

@[simp]
theorem isPlain_toString_int (number : Int) : IsPlain (toString number) := by
  cases number with
  | ofNat number => exact isPlain_toString_nat number
  | negSucc number =>
      exact isPlain_append.mpr ⟨by decide, isPlain_toString_nat (number + 1)⟩

theorem isPlain_replicate {letter : Char} (ne : letter ≠ '\x1b') (count : Nat) :
    IsPlain (String.ofList (List.replicate count letter)) := by
  simp [ne.symm]

theorem isPlain_take {text : String} (plain : IsPlain text) (count : Nat) :
    IsPlain (text.take count).toString := by
  simp only [IsPlain, String.Slice.toString_eq, String.toList_copy_take] at plain ⊢
  exact fun mem => plain (List.mem_of_mem_take mem)

theorem isPlain_drop {text : String} (plain : IsPlain text) (count : Nat) :
    IsPlain (text.drop count).toString := by
  simp only [IsPlain, String.Slice.toString_eq, String.toList_copy_drop] at plain ⊢
  exact fun mem => plain (List.mem_of_mem_drop mem)

theorem isPlain_padZeros (width : Nat) {digits : String} (plain : IsPlain digits) :
    IsPlain (padZeros width digits) :=
  isPlain_append.mpr ⟨isPlain_replicate (by decide) _, plain⟩

/-! ### Fixed places -/

theorem isPlain_fixedDigits (places numerator denominator : Nat) :
    IsPlain (fixedDigits places numerator denominator) := by
  have digits : IsPlain (padZeros (places + 1)
      (toString (roundHalfEven (numerator * 10 ^ places) denominator))) :=
    isPlain_padZeros _ (isPlain_toString_nat _)
  rw [fixedDigits]
  split_ifs
  · exact digits
  · exact isPlain_append.mpr ⟨isPlain_append.mpr ⟨isPlain_take digits _, by decide⟩,
      isPlain_drop digits _⟩

theorem isPlain_fixed (places : Nat) (number : Binary64) : IsPlain (number.fixed places) := by
  cases number with
  | nan => exact (by decide : IsPlain "nan")
  | infinity negative =>
      cases negative with
      | true => exact (by decide : IsPlain "-inf")
      | false => exact (by decide : IsPlain "inf")
  | negativeZero => exact isPlain_append.mpr ⟨by decide, isPlain_fixedDigits _ _ _⟩
  | finite value =>
      refine isPlain_append.mpr ⟨?_, isPlain_fixedDigits _ _ _⟩
      split_ifs <;> decide

/-! ### Shortest texts -/

theorem isPlain_text_decimal (decimal : Decimal) : IsPlain decimal.text := by
  have digits : IsPlain (toString decimal.digits) := isPlain_toString_nat _
  have taken (count : Nat) := isPlain_take digits count
  have dropped (count : Nat) := isPlain_drop digits count
  have zerosPlain (count : Nat) : IsPlain (zeros count) := isPlain_replicate (by decide) count
  have exponent (number : Nat) := isPlain_padZeros 2 (isPlain_toString_nat number)
  have literals : IsPlain "" ∧ IsPlain "." ∧ IsPlain "e" ∧ IsPlain "-" ∧ IsPlain "+" ∧
      IsPlain "0." ∧ IsPlain ".0" := by decide
  simp only [Decimal.text]
  split_ifs <;> simp only [isPlain_append, digits, taken, dropped, zerosPlain, exponent, literals,
    and_self]

theorem isPlain_text_binary64 (number : Binary64) : IsPlain number.text := by
  cases number with
  | nan => exact (by decide : IsPlain "nan")
  | infinity negative =>
      cases negative with
      | true => exact (by decide : IsPlain "-inf")
      | false => exact (by decide : IsPlain "inf")
  | negativeZero => exact (by decide : IsPlain "-0.0")
  | finite value =>
      simp only [Binary64.text]
      split_ifs
      · decide
      · exact isPlain_append.mpr ⟨by decide, isPlain_text_decimal _⟩
      · exact isPlain_text_decimal _

end Lookalike
