import Lookalike.Text.ControlSequence
import Mathlib.Data.List.Basic

/-!
# Texts and their control sequences

A control sequence begins with an escape character and stands on one line.  So a text without
escape characters is kept as it is, and lines may be taken one after another.
-/

namespace Lookalike

/-! ### Plain texts -/

/-- Whether a text holds no escape character. -/
def IsPlain (text : String) : Prop := '\x1b' ∉ text.toList

instance (text : String) : Decidable (IsPlain text) :=
  inferInstanceAs (Decidable ('\x1b' ∉ text.toList))

@[simp]
theorem isPlain_append {text text' : String} :
    IsPlain (text ++ text') ↔ IsPlain text ∧ IsPlain text' := by
  simp [IsPlain, not_or]

@[simp]
theorem isPlain_ofList {letters : List Char} :
    IsPlain (String.ofList letters) ↔ '\x1b' ∉ letters := by
  simp [IsPlain]

theorem sequenceLength_of_ne {letter : Char} (ne : letter ≠ '\x1b') (rest : List Char) :
    sequenceLength (letter :: rest) = 0 := by
  rw [sequenceLength]
  rintro _ ⟨rfl, -⟩
  exact ne rfl

theorem sequenceLength_of_not_opened {first second : Char}
    (notOpened : ¬(first = '\x1b' ∧ second = '[')) (rest : List Char) :
    sequenceLength (first :: second :: rest) = 0 := by
  rw [sequenceLength]
  rintro _ ⟨rfl, ⟨rfl, -⟩⟩
  exact notOpened ⟨rfl, rfl⟩

theorem plainLetters_eq_self {letters : List Char} (plain : '\x1b' ∉ letters) :
    plainLetters 0 letters = letters := by
  induction letters with
  | nil => rfl
  | cons letter letters ih =>
      rw [List.mem_cons, not_or] at plain
      obtain ⟨ne, plain⟩ := plain
      rw [plainLetters, sequenceLength_of_ne (Ne.symm ne)]
      exact congrArg (letter :: ·) (ih plain)

/-- A text without escape characters has no control sequences. -/
theorem withoutControlSequences_of_isPlain {text : String} (plain : IsPlain text) :
    withoutControlSequences text = text := by
  rw [withoutControlSequences, plainLetters_eq_self plain, String.ofList_toList]

/-! ### Lines -/

theorem takeWhile_append_newline (letters rest : List Char) :
    (letters ++ '\n' :: rest).takeWhile isSequenceParameter =
      letters.takeWhile isSequenceParameter := by
  induction letters with
  | nil => rfl
  | cons letter letters ih => simp only [List.cons_append, List.takeWhile_cons, ih]

/-- The length of a sequence that is opened on a line, whatever follows the line. -/
theorem sequenceLength_opened (letters rest : List Char) :
    sequenceLength ('\x1b' :: '[' :: (letters ++ '\n' :: rest)) =
      match letters.drop (letters.takeWhile isSequenceParameter).length with
      | last :: _ =>
          if last.isAlpha then (letters.takeWhile isSequenceParameter).length + 3 else 0
      | [] => 0 := by
  have dropEq :
      (letters ++ '\n' :: rest).drop (letters.takeWhile isSequenceParameter).length =
        letters.drop (letters.takeWhile isSequenceParameter).length ++ '\n' :: rest :=
    List.drop_append_of_le_length (List.takeWhile_sublist _).length_le
  simp only [sequenceLength, takeWhile_append_newline, dropEq]
  cases letters.drop (letters.takeWhile isSequenceParameter).length with
  | nil => rfl
  | cons last further => rfl

/-- What follows a line break is no part of a control sequence before it. -/
theorem sequenceLength_append_newline (letters rest : List Char) :
    sequenceLength (letters ++ '\n' :: rest) = sequenceLength (letters ++ ['\n']) ∧
      sequenceLength (letters ++ ['\n']) ≤ letters.length := by
  -- A sequence is opened by two letters, neither of which is a line break.
  rcases letters with _ | ⟨first, _ | ⟨second, letters⟩⟩
  · simp [sequenceLength]
  · simp [sequenceLength]
  by_cases opened : first = '\x1b' ∧ second = '['
  · obtain ⟨rfl, rfl⟩ := opened
    simp only [List.cons_append, sequenceLength_opened, List.length_cons]
    refine ⟨trivial, ?_⟩
    -- The letter that closes the sequence has to stand on the line, so the break does not count.
    cases left : letters.drop (letters.takeWhile isSequenceParameter).length with
    | nil => exact Nat.zero_le _
    | cons last further =>
        have leftLength := congrArg List.length left
        rw [List.length_drop, List.length_cons] at leftLength
        have shorter :
            (letters.takeWhile isSequenceParameter).length + 1 ≤ letters.length := by omega
        dsimp only
        split_ifs
        · exact Nat.add_le_add_right shorter 2
        · exact Nat.zero_le _
  · simp only [List.cons_append, sequenceLength_of_not_opened opened]
    exact ⟨trivial, Nat.zero_le _⟩

theorem plainLetters_append_newline {pass : Nat} {letters : List Char}
    (le : pass ≤ letters.length) (rest : List Char) :
    plainLetters pass (letters ++ '\n' :: rest) =
      plainLetters pass (letters ++ ['\n']) ++ plainLetters 0 rest := by
  induction letters generalizing pass with
  | nil =>
      obtain rfl := Nat.le_zero.mp le
      simp [plainLetters, sequenceLength_of_ne]
  | cons letter letters ih =>
      cases pass with
      | succ pass => exact ih (Nat.le_of_succ_le_succ le)
      | zero =>
          obtain ⟨lengthEq, lengthLe⟩ := sequenceLength_append_newline (letter :: letters) rest
          simp only [List.cons_append] at lengthEq lengthLe
          simp only [List.cons_append, plainLetters, lengthEq]
          cases taken : sequenceLength (letter :: (letters ++ ['\n'])) with
          | zero => exact congrArg (letter :: ·) (ih (Nat.zero_le _))
          | succ length =>
              rw [taken] at lengthLe
              exact ih (Nat.le_of_succ_le_succ lengthLe)

/-- The control sequences of a text are those of its lines. -/
theorem withoutControlSequences_append_line (text rest : String) :
    withoutControlSequences (text ++ "\n" ++ rest) =
      withoutControlSequences (text ++ "\n") ++ withoutControlSequences rest := by
  have lineEq := plainLetters_append_newline (Nat.zero_le text.toList.length) rest.toList
  simp [withoutControlSequences, lineEq]

end Lookalike
