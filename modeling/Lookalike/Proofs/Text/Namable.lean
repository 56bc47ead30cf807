import Lookalike.Proofs.Text.CodePoints
import Lookalike.Text.Blank
import Lookalike.Text.Identifier
import Lookalike.Text.Normal
import Mathlib.Data.Nat.Notation

/-!
# Code points that names are free of

A word has no blanks and no quotation marks.  Some characters are neither but have one of them in
their compatibility form, as a free-standing accent has a blank.  All these are told here by their
code points, and the tables are gone through once: none of them begins or continues an identifier,
no other character has such a form, and no two characters compose to one.
-/

namespace Lookalike

/-! ### Letters of words -/

/-- Whether a letter may stand in a word: it is no blank and no quotation mark. -/
def isWordLetter (letter : Char) : Bool := !isBlank letter && letter != '"'

/-- Whether nothing in a text is blank or a quotation mark. -/
def IsWord (text : String) : Prop :=
  ∀ letter ∈ text.toList, isWordLetter letter = true

/-- The code points of blanks and of the quotation mark, and of all characters with one of these in
their compatibility form. -/
def unnamable : List (ℕ × ℕ) :=
  [(0x9, 0xD), (0x1C, 0x20), (0x22, 0x22), (0x85, 0x85), (0xA0, 0xA0), (0xA8, 0xA8), (0xAF, 0xAF),
    (0xB4, 0xB4), (0xB8, 0xB8), (0x2D8, 0x2DD), (0x37A, 0x37A), (0x384, 0x385), (0x1680, 0x1680),
    (0x1FBD, 0x1FBD), (0x1FBF, 0x1FC1), (0x1FCD, 0x1FCF), (0x1FDD, 0x1FDF), (0x1FED, 0x1FEE),
    (0x1FFD, 0x1FFE), (0x2000, 0x200A), (0x2017, 0x2017), (0x2028, 0x2029), (0x202F, 0x202F),
    (0x203E, 0x203E), (0x205F, 0x205F), (0x3000, 0x3000), (0x309B, 0x309C), (0xFC5E, 0xFC63),
    (0xFDFA, 0xFDFB), (0xFE49, 0xFE4C), (0xFE70, 0xFE70), (0xFE72, 0xFE72), (0xFE74, 0xFE74),
    (0xFE76, 0xFE76), (0xFE78, 0xFE78), (0xFE7A, 0xFE7A), (0xFE7C, 0xFE7C), (0xFE7E, 0xFE7E),
    (0xFF02, 0xFF02), (0xFFE3, 0xFFE3)]

/-- Whether a code point cannot stand in a name. -/
def isUnnamable (point : ℕ) : Bool :=
  unnamable.any fun range => range.1 ≤ point && point ≤ range.2

/-- Whether all code points of a range can stand in a name. -/
def isNamableRange (range : ℕ × ℕ) : Bool :=
  unnamable.all fun apart => Nat.blt apart.2 range.1 || Nat.blt range.2 apart.1

theorem isUnnamable_eq_false_of_range {range : ℕ × ℕ} (namable : isNamableRange range = true)
    {point : ℕ} (ge : range.1 ≤ point) (le : point ≤ range.2) : isUnnamable point = false := by
  rw [isUnnamable, List.any_eq_false]
  intro apart mem
  have outside := List.all_eq_true.mp namable apart mem
  simp only [Bool.or_eq_true, Nat.blt_eq] at outside
  simp only [Bool.and_eq_true, decide_eq_true_eq]
  omega

theorem isWordLetter_of_namable {letter : Char} (namable : isUnnamable letter.toNat = false) :
    isWordLetter letter = true := by
  have notQuote : letter ≠ '"' := by
    rintro rfl
    revert namable
    decide
  simp only [isUnnamable, unnamable, List.any_cons, List.any_nil, Bool.or_false,
    Bool.or_eq_false_iff, Bool.and_eq_false_iff, decide_eq_false_iff_not] at namable
  have notBlank : isBlank letter = false := by
    simp only [isBlank, Bool.or_eq_false_iff, Bool.and_eq_false_iff, decide_eq_false_iff_not,
      beq_eq_false_iff_ne]
    omega
  simp [isWordLetter, notBlank, notQuote]

theorem isWordLetter_ofNat {point : ℕ} (namable : isUnnamable point = false) :
    isWordLetter (Char.ofNat point) = true := by
  apply isWordLetter_of_namable
  rw [Char.ofNat]
  by_cases valid : point.isValidChar
  · rw [dif_pos valid]
    exact namable
  · rw [dif_neg valid]
    decide

/-! ### What the tables hold -/

section

set_option maxRecDepth 4000

theorem isNamableRange_identifierStarts :
    ∀ range ∈ identifierStarts.ranges, isNamableRange range = true :=
  CodePoints.forall_mem_ofLines isNamableRange (by repeat' constructor) (by decide +kernel)

theorem isNamableRange_identifierParts :
    ∀ range ∈ identifierParts.ranges, isNamableRange range = true :=
  CodePoints.forall_mem_ofLines isNamableRange (by repeat' constructor) (by decide +kernel)

/-- What has a blank or a quotation mark in its form cannot stand in a name. -/
theorem all_isWordLetter_compatibilityForms :
    ∀ form ∈ compatibilityForms.entries,
      (form.2.all isWordLetter || isUnnamable form.1) = true :=
  CodePointMap.forall_mem_ofLines (fun form => form.2.all isWordLetter || isUnnamable form.1)
    (by repeat' constructor) (by decide +kernel)

theorem all_isWordLetter_composedForms :
    ∀ form ∈ composedForms.entries, form.2.all isWordLetter = true :=
  CodePointMap.forall_mem_ofLines (fun form => form.2.all isWordLetter) (by repeat' constructor)
    (by decide +kernel)

end

theorem isUnnamable_of_isIdentifier {letters : List Char} (identifier : isIdentifier letters = true)
    {letter : Char} (mem : letter ∈ letters) : isUnnamable letter.toNat = false := by
  cases letters with
  | nil => cases mem
  | cons first rest =>
      simp only [isIdentifier, Bool.and_eq_true, Bool.or_eq_true, decide_eq_true_eq,
        List.all_eq_true] at identifier
      rcases List.mem_cons.mp mem with rfl | mem
      · rcases identifier.1 with rfl | start
        · decide
        · rcases CodePoints.exists_range_of_containsPoint start with ⟨range, rangeMem, ge, le⟩
          exact isUnnamable_eq_false_of_range (isNamableRange_identifierStarts range rangeMem) ge le
      · rcases CodePoints.exists_range_of_containsPoint (identifier.2 letter mem) with
          ⟨range, rangeMem, ge, le⟩
        exact isUnnamable_eq_false_of_range (isNamableRange_identifierParts range rangeMem) ge le

end Lookalike
