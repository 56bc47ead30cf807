import Lookalike.Number.Numeral
import Mathlib.Data.List.TakeWhile

/-!
# What numerals are read as

A text of white space alone is not read as a floating-point number, although not all white
space may stand around one: what is left of such a text begins with a character that begins no
number.  An integer that is read has no more digits than the greatest number of them.
-/

namespace Lookalike

-- Powers of whole numbers are the built-in ones, whatever else is in sight.
attribute [local instance (1100)] instPowNat

/-! ### White space -/

/-- The code points of white space. -/
def blankPoints : List Nat :=
  [0x09, 0x0A, 0x0B, 0x0C, 0x0D, 0x1C, 0x1D, 0x1E, 0x1F, 0x20, 0x85, 0xA0, 0x1680, 0x2000, 0x2001,
    0x2002, 0x2003, 0x2004, 0x2005, 0x2006, 0x2007, 0x2008, 0x2009, 0x200A, 0x2028, 0x2029,
    0x202F, 0x205F, 0x3000]

theorem toNat_mem_blankPoints {letter : Char} (blank : isBlank letter = true) :
    letter.toNat ∈ blankPoints := by
  simp only [isBlank, Bool.or_eq_true, Bool.and_eq_true, decide_eq_true_eq, beq_iff_eq] at blank
  simp only [blankPoints, List.mem_cons, List.not_mem_nil, or_false]
  omega

/-- White space is no part of a number. -/
theorem isBlank_ne {letter : Char} (blank : isBlank letter = true) :
    letter ≠ '_' ∧ letter ≠ '-' ∧ letter ≠ '+' ∧ letter ≠ '.' ∧ letter.isDigit = false ∧
      letter.toLower ≠ 'i' ∧ letter.toLower ≠ 'n' := by
  have ofPoints : ∀ point ∈ blankPoints,
      let letter := Char.ofNat point
      letter ≠ '_' ∧ letter ≠ '-' ∧ letter ≠ '+' ∧ letter ≠ '.' ∧ letter.isDigit = false ∧
        letter.toLower ≠ 'i' ∧ letter.toLower ≠ 'n' := by
    decide +kernel
  have ofLetter := ofPoints _ (toNat_mem_blankPoints blank)
  rwa [Char.ofNat_toNat] at ofLetter

theorem decimalDigit?_of_isBlank {letter : Char} (blank : isBlank letter = true) :
    decimalDigit? letter = none := by
  have ofPoints : ∀ point ∈ blankPoints, decimalDigit? (Char.ofNat point) = none := by
    decide +kernel
  have ofLetter := ofPoints _ (toNat_mem_blankPoints blank)
  rwa [Char.ofNat_toNat] at ofLetter

theorem mem_of_mem_trimBoth {drop : Char → Bool} {letters : List Char} {letter : Char}
    (mem : letter ∈ trimBoth drop letters) : letter ∈ letters := by
  rw [trimBoth, List.mem_reverse] at mem
  have inner := (List.dropWhile_sublist drop).subset mem
  rw [List.mem_reverse] at inner
  exact (List.dropWhile_sublist drop).subset inner

theorem of_trimBoth_eq_nil {drop : Char → Bool} {letters : List Char}
    (nothing : trimBoth drop letters = []) {letter : Char} (mem : letter ∈ letters) :
    drop letter = true := by
  rw [trimBoth, List.reverse_eq_nil_iff, List.dropWhile_eq_nil_iff] at nothing
  rw [← List.takeWhile_append_dropWhile (p := drop) (l := letters), List.mem_append] at mem
  rcases mem with taken | left
  · exact List.mem_takeWhile_imp taken
  · exact nothing letter (List.mem_reverse.mpr left)

/-! ### Numerals -/

theorem numeralLetters_of_blank {text : String} (blank : (strip text).isEmpty = true) :
    ∀ letter ∈ numeralLetters text, isBlank letter = true := by
  have nothing : trimBoth isBlank text.toList = [] := by
    simpa [strip] using blank
  simp only [numeralLetters, List.forall_mem_map]
  intro letter mem
  have letterBlank := of_trimBoth_eq_nil nothing (mem_of_mem_trimBoth mem)
  rw [decimalDigit?_of_isBlank letterBlank]
  exact letterBlank

theorem joinDigitGroups_of_blank {letters : List Char}
    (blank : ∀ letter ∈ letters, isBlank letter = true) (afterDigit : Bool) :
    joinDigitGroups afterDigit letters = some letters := by
  induction letters generalizing afterDigit with
  | nil => rfl
  | cons letter letters ih =>
      obtain ⟨letterBlank, blank⟩ := List.forall_mem_cons.mp blank
      obtain ⟨ne, -⟩ := isBlank_ne letterBlank
      rw [joinDigitGroups, ih blank]
      · rfl
      · exact fun _ _ underscore => absurd underscore ne
      · exact fun underscore => absurd underscore ne

/-- A blank text is no floating-point number. -/
theorem readFloat?_of_blank {text : String} (blank : (strip text).isEmpty = true) :
    readFloat? text = none := by
  have lettersBlank := numeralLetters_of_blank blank
  rw [readFloat?, joinDigitGroups_of_blank lettersBlank]
  cases letters : numeralLetters text with
  | nil => decide
  | cons letter further =>
      -- The first letter decides: it is no sign, digit or point, and no name begins with it.
      rw [letters, List.forall_mem_cons] at lettersBlank
      obtain ⟨-, minus, plus, point, noDigit, noInf, noNan⟩ := isBlank_ne lettersBlank.1
      have signEq : splitSign (letter :: further) = (false, letter :: further) := by
        simp [splitSign, minus, plus]
      have nameEq : ∀ word, String.ofList ((letter :: further).map Char.toLower) = word →
          word.toList.head? = some letter.toLower := by
        rintro _ rfl
        simp
      have notInf : String.ofList ((letter :: further).map Char.toLower) ≠ "inf" :=
        fun same => noInf (by simpa using (nameEq _ same).symm)
      have notInfinity : String.ofList ((letter :: further).map Char.toLower) ≠ "infinity" :=
        fun same => noInf (by simpa using (nameEq _ same).symm)
      have notNan : String.ofList ((letter :: further).map Char.toLower) ≠ "nan" :=
        fun same => noNan (by simpa using (nameEq _ same).symm)
      have notUnsigned : readUnsignedFloat? false (letter :: further) = none := by
        simp [readUnsignedFloat?, noDigit, point]
      simp only [signEq, Option.bind_eq_bind, Option.bind_some, notInf, notInfinity, notNan,
        or_self, if_false, notUnsigned]

/-! ### Integers -/

theorem digitValue_le_nine {letter : Char} (isDigit : letter.isDigit = true) :
    letter.toNat - '0'.toNat ≤ 9 := by
  simp only [Char.isDigit, Bool.and_eq_true, decide_eq_true_eq] at isDigit
  have atMost : letter.toNat ≤ '9'.toNat := UInt32.le_iff_toNat_le.mp isDigit.2
  exact Nat.sub_le_sub_right atMost _

/-- A run of digits stands for less than the power of ten that has one more. -/
theorem foldl_digits_lt {digits : List Char} (allDigits : ∀ letter ∈ digits, letter.isDigit = true)
    (start : Nat) :
    digits.foldl (fun value digit => value * 10 + (digit.toNat - '0'.toNat)) start <
      (start + 1) * 10 ^ digits.length := by
  induction digits generalizing start with
  | nil => simp
  | cons digit digits ih =>
      have small := digitValue_le_nine (allDigits digit List.mem_cons_self)
      have rest := ih (fun letter mem => allDigits letter (List.mem_cons_of_mem _ mem))
        (start * 10 + (digit.toNat - '0'.toNat))
      refine Nat.lt_of_lt_of_le rest ?_
      rw [List.length_cons, Nat.pow_succ, Nat.mul_comm (10 ^ digits.length), ← Nat.mul_assoc]
      exact Nat.mul_le_mul_right _ (by omega)

/-- An integer that is read is not too long to be written out. -/
theorem natAbs_lt_of_readInteger? {text : String} {value : Int}
    (read : readInteger? text = some value) : value.natAbs < 10 ^ greatestDigitCount := by
  simp only [readInteger?, Option.bind_eq_bind, Option.bind_eq_some_iff] at read
  obtain ⟨letters, -, read⟩ := read
  split at read
  · cases read
  · rename_i readable
    simp only [not_or, Decidable.not_not, List.all_eq_true] at readable
    obtain ⟨-, allDigits, short⟩ := readable
    have small := foldl_digits_lt allDigits 0
    rw [Nat.zero_add, Nat.one_mul] at small
    have bounded := Nat.lt_of_lt_of_le small
      (Nat.pow_le_pow_right (by decide) (Nat.not_lt.mp short))
    cases read
    split <;> simpa [digitsValue] using bounded

end Lookalike
