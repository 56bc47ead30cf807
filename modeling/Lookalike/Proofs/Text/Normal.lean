import Lookalike.Proofs.Text.Namable
import Mathlib.Tactic.SplitIfs

/-!
# Normal forms of identifiers are words

What a letter of an identifier is decomposed to has no blank and no quotation mark in it.  Ordering
marks brings no letters in, and composing brings in only what two characters make together.  So the
compatibility form of an identifier is a word.
-/

namespace Lookalike

/-! ### Decomposing -/

section

variable {letter part : Char}

theorem isWordLetter_of_mem_decomposeSyllable {point : ℕ} (ge : syllableBase ≤ point)
    (lt : point < syllableBase + 11172) (mem : part ∈ decomposeSyllable point) :
    isWordLetter part = true := by
  have jamo {index : ℕ} (ge : 0x1100 ≤ index) (le : index ≤ 0x1200) :
      isWordLetter (Char.ofNat index) = true :=
    isWordLetter_ofNat (isUnnamable_eq_false_of_range
      (show isNamableRange (0x1100, 0x1200) = true by decide +kernel) ge le)
  rw [syllableBase] at ge lt
  have lead : isWordLetter (Char.ofNat (leadBase + (point - syllableBase) / 588)) = true := by
    apply jamo <;> simp only [leadBase, syllableBase] <;> omega
  have vowel :
      isWordLetter (Char.ofNat (vowelBase + (point - syllableBase) % 588 / 28)) = true := by
    apply jamo <;> simp only [vowelBase, syllableBase] <;> omega
  have tail : isWordLetter (Char.ofNat (tailBase + (point - syllableBase) % 28)) = true := by
    apply jamo <;> simp only [tailBase, syllableBase] <;> omega
  simp only [decomposeSyllable] at mem
  split_ifs at mem
  · simp only [List.mem_cons, List.not_mem_nil, or_false] at mem
    rcases mem with partEq | partEq
    · rw [partEq, lead]
    · rw [partEq, vowel]
  · simp only [List.mem_cons, List.not_mem_nil, or_false] at mem
    rcases mem with partEq | partEq | partEq
    · rw [partEq, lead]
    · rw [partEq, vowel]
    · rw [partEq, tail]

theorem isWordLetter_of_mem_decompose (namable : isUnnamable letter.toNat = false)
    (mem : part ∈ decompose letter) : isWordLetter part = true := by
  rw [decompose] at mem
  split_ifs at mem with ascii syllable
  · rw [List.mem_singleton.mp mem]
    exact isWordLetter_of_namable namable
  · exact isWordLetter_of_mem_decomposeSyllable syllable.1 syllable.2 mem
  · cases found : compatibilityForms.find? letter.toNat with
    | none =>
        rw [found, Option.getD_none, List.mem_singleton] at mem
        rw [mem]
        exact isWordLetter_of_namable namable
    | some letters =>
        rw [found, Option.getD_some] at mem
        have checked := all_isWordLetter_compatibilityForms _ (CodePointMap.mem_of_find? found)
        rw [namable, Bool.or_false, List.all_eq_true] at checked
        exact checked part mem

end

/-! ### Composing -/

section

variable {holds : Char → Prop} {letter : Char}

theorem mem_insertMark {mark : Char} {marks : List Char} (mem : letter ∈ insertMark mark marks) :
    letter = mark ∨ letter ∈ marks := by
  induction marks with
  | nil => exact Or.inl (List.mem_singleton.mp mem)
  | cons last marks ih =>
      rw [insertMark] at mem
      split_ifs at mem
      · rcases List.mem_cons.mp mem with rfl | mem
        · exact Or.inr List.mem_cons_self
        · exact (ih mem).imp_right (List.mem_cons_of_mem last)
      · exact List.mem_cons.mp mem

/-- Ordering marks brings no letters in. -/
theorem mem_orderMarks {marks letters : List Char} (mem : letter ∈ orderMarks marks letters) :
    letter ∈ marks ∨ letter ∈ letters := by
  induction letters generalizing marks with
  | nil => exact Or.inl (List.mem_reverse.mp mem)
  | cons first letters ih =>
      rw [orderMarks] at mem
      split_ifs at mem
      · rcases List.mem_append.mp mem with mem | mem
        · exact Or.inl (List.mem_reverse.mp mem)
        · rcases List.mem_cons.mp mem with rfl | mem
          · exact Or.inr List.mem_cons_self
          · rcases ih mem with mem | mem
            · cases mem
            · exact Or.inr (List.mem_cons_of_mem first mem)
      · rcases ih mem with mem | mem
        · rcases mem_insertMark mem with rfl | mem
          · exact Or.inr List.mem_cons_self
          · exact Or.inl mem
        · exact Or.inr (List.mem_cons_of_mem first mem)

/-- Whether a mark stands behind one left in place that keeps it from the base character. -/
def isBlocked (letter : Char) : List Char → Bool
  | [] => false
  | last :: _ => combiningClass letter ≤ combiningClass last

theorem composeFrom_cons (base first : Char) (skipped letters : List Char) :
    composeFrom base skipped (first :: letters) =
      match (if isBlocked first skipped then none else composePair? base first) with
      | some composed => composeFrom composed skipped letters
      | none =>
          if combiningClass first = 0 then
            base :: skipped.reverse ++ composeFrom first [] letters
          else composeFrom base (first :: skipped) letters := by
  cases skipped <;> rfl

/-- What is true of letters and of all that two characters make together is true of what the
letters compose to. -/
theorem of_mem_composeFrom
    (closed : ∀ first second composed, composePair? first second = some composed → holds composed)
    {base : Char} {skipped letters : List Char} (baseHolds : holds base)
    (skippedHold : ∀ letter ∈ skipped, holds letter)
    (lettersHold : ∀ letter ∈ letters, holds letter)
    (mem : letter ∈ composeFrom base skipped letters) : holds letter := by
  induction letters generalizing base skipped with
  | nil =>
      rcases List.mem_cons.mp mem with rfl | mem
      · exact baseHolds
      · exact skippedHold letter (List.mem_reverse.mp mem)
  | cons first letters ih =>
      have firstHolds := lettersHold first List.mem_cons_self
      have restHold : ∀ letter ∈ letters, holds letter :=
        fun letter mem => lettersHold letter (List.mem_cons_of_mem first mem)
      rw [composeFrom_cons] at mem
      split at mem
      · rename_i composed composedEq
        have composedHolds : holds composed := by
          split_ifs at composedEq
          exact closed base first composed composedEq
        exact ih composedHolds skippedHold restHold mem
      · split_ifs at mem
        · rcases List.mem_append.mp mem with mem | mem
          · rcases List.mem_cons.mp mem with rfl | mem
            · exact baseHolds
            · exact skippedHold letter (List.mem_reverse.mp mem)
          · exact ih firstHolds (fun _ mem => absurd mem List.not_mem_nil) restHold mem
        · refine ih baseHolds ?_ restHold mem
          intro letter mem
          rcases List.mem_cons.mp mem with rfl | mem
          · exact firstHolds
          · exact skippedHold letter mem

theorem of_mem_compose
    (closed : ∀ first second composed, composePair? first second = some composed → holds composed)
    {letters : List Char} (lettersHold : ∀ letter ∈ letters, holds letter)
    (mem : letter ∈ compose letters) : holds letter := by
  induction letters with
  | nil => cases mem
  | cons first letters ih =>
      have firstHolds := lettersHold first List.mem_cons_self
      have restHold : ∀ letter ∈ letters, holds letter :=
        fun letter mem => lettersHold letter (List.mem_cons_of_mem first mem)
      rw [compose] at mem
      split_ifs at mem
      · exact of_mem_composeFrom closed firstHolds (fun _ mem => absurd mem List.not_mem_nil)
          restHold mem
      · rcases List.mem_cons.mp mem with rfl | mem
        · exact firstHolds
        · exact ih restHold mem

end

theorem composeSyllable?_bounds {first second point : ℕ}
    (composed : composeSyllable? first second = some point) :
    0xAC00 ≤ point ∧ point ≤ 0xD7A3 := by
  rw [composeSyllable?, syllableBase, leadBase, vowelBase, tailBase] at composed
  split at composed
  · have pointEq := Option.some.inj composed
    omega
  · split at composed
    · have pointEq := Option.some.inj composed
      omega
    · cases composed

/-- What two characters make together is a syllable, or the table has it. -/
theorem composePair?_cases {first second composed : Char}
    (composedEq : composePair? first second = some composed) :
    (∃ point, composeSyllable? first.toNat second.toNat = some point ∧
        composed = Char.ofNat point) ∨
      ∃ key, composedForms.find? key = some [composed] := by
  rw [composePair?] at composedEq
  generalize first.toNat * 0x110000 + second.toNat = key at composedEq
  cases syllable : composeSyllable? first.toNat second.toNat with
  | some point =>
      rw [syllable] at composedEq
      exact Or.inl ⟨point, rfl, (Option.some.inj composedEq).symm⟩
  | none =>
      rw [syllable] at composedEq
      -- The table gets a name, so that it is not evaluated.
      generalize foundEq : composedForms.find? key = found at composedEq
      match found with
      | some [letter] =>
          rw [Option.some.inj composedEq] at foundEq
          exact Or.inr ⟨key, foundEq⟩

theorem isWordLetter_of_composePair? {first second composed : Char}
    (composedEq : composePair? first second = some composed) : isWordLetter composed = true := by
  rcases composePair?_cases composedEq with ⟨point, syllable, rfl⟩ | ⟨key, found⟩
  · have bounds := composeSyllable?_bounds syllable
    exact isWordLetter_ofNat (isUnnamable_eq_false_of_range
      (show isNamableRange (0xAC00, 0xD7A3) = true by decide +kernel) bounds.1 bounds.2)
  · have checked := all_isWordLetter_composedForms _ (CodePointMap.mem_of_find? found)
    exact List.all_eq_true.mp checked composed List.mem_cons_self

/-! ### Normal forms -/

/-- The normal form of letters that can stand in a name is a word. -/
theorem isWordLetter_of_mem_compatibilityNormal {letters : List Char}
    (namable : ∀ letter ∈ letters, isUnnamable letter.toNat = false) {letter : Char}
    (mem : letter ∈ compatibilityNormal letters) : isWordLetter letter = true := by
  rw [compatibilityNormal] at mem
  split_ifs at mem
  · exact isWordLetter_of_namable (namable letter mem)
  · refine of_mem_compose (fun _ _ _ => isWordLetter_of_composePair?) ?_ mem
    intro part ordered
    rcases mem_orderMarks ordered with noMark | partMem
    · cases noMark
    · rcases List.mem_flatMap.mp partMem with ⟨letter', letterMem, partMem⟩
      exact isWordLetter_of_mem_decompose (namable letter' letterMem) partMem

end Lookalike
