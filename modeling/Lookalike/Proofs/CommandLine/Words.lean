import Lookalike.CommandLine.Words

/-!
# What can be read from words

Words that are no options are kept in order, and reading stops at the first of them if a
command takes none of its options behind other words.  Whatever options are read are options of
the command.
-/

namespace Lookalike

namespace CommandLine

variable {command : CommandForm}

/-! ### Words that are no options -/

theorem ne_dashes_of_isOptionWord {word : String} (plain : isOptionWord word.toList = false) :
    word ≠ "--" := by
  rintro rfl
  exact absurd plain (by decide)

theorem readFrom_of_plain (mixed : command.mixed = true) {words : List String}
    (plain : ∀ word ∈ words, isOptionWord word.toList = false)
    (given : List (OptionKey × String)) (others : List String) :
    readFrom command none given others words =
      .ok { given := given.reverse, words := others.reverse ++ words } := by
  induction words generalizing others with
  | nil => simp [readFrom]
  | cons word words ih =>
      obtain ⟨wordPlain, plain⟩ := List.forall_mem_cons.mp plain
      simp [readFrom, ne_dashes_of_isOptionWord wordPlain, wordPlain, mixed, ih plain]

/-- Words without options are kept as they are. -/
theorem readWords_of_plain (mixed : command.mixed = true) {words : List String}
    (plain : ∀ word ∈ words, isOptionWord word.toList = false) :
    readWords command words = .ok { words := words } :=
  readFrom_of_plain mixed plain [] []

/-- The first word that is no option ends the options of a command that takes them only in
front. -/
theorem readWords_of_plain_cons (inFront : command.mixed = false) {word : String}
    (plain : isOptionWord word.toList = false) (words : List String) :
    readWords command (word :: words) = .ok { words := word :: words } := by
  simp [readWords, readFrom, ne_dashes_of_isOptionWord plain, plain, inFront]

/-! ### Options of the command -/

/-- Whether a command has an option. -/
def CommandForm.Has (command : CommandForm) (key : OptionKey) : Prop :=
  ∃ form ∈ command.options, form.key = key

/-- Whether all that was read from a word are options of a command. -/
structure WordReading.IsOf (command : CommandForm) (reading : WordReading) : Prop where
  given : ∀ option ∈ reading.given, command.Has option.1
  waiting : ∀ option ∈ reading.waiting, command.Has option.1

theorem isOf_readLong {name : String} {attached : Option String} {reading : WordReading}
    (read : readLong command name attached = .ok reading) : reading.IsOf command := by
  rw [readLong] at read
  split at read
  case h_1 => cases read
  case h_2 form found =>
    have has : command.Has form.key := ⟨form, List.mem_of_find?_eq_some found, rfl⟩
    split at read <;> cases read <;> constructor <;> simp [has]

theorem isOf_readShort {letters : List Char} {reading : WordReading}
    (read : readShort command letters = .ok reading) : reading.IsOf command := by
  induction letters generalizing reading with
  | nil =>
      cases read
      constructor <;> simp
  | cons letter letters ih =>
      simp only [readShort] at read
      split at read
      case h_1 => cases read
      case h_2 form found =>
        have has : command.Has form.key := ⟨form, List.mem_of_find?_eq_some found, rfl⟩
        split at read
        · split at read <;> cases read <;> constructor <;> simp [has]
        · cases rest : readShort command letters with
          | error fault => simp [rest, bind, Except.bind] at read
          | ok further =>
              have furtherOf := ih rest
              simp only [rest, bind, Except.bind, pure, Except.pure, Except.ok.injEq] at read
              subst read
              exact ⟨by simpa [has] using furtherOf.given, furtherOf.waiting⟩

theorem isOf_readOption {word : List Char} {reading : WordReading}
    (read : readOption command word = .ok reading) : reading.IsOf command := by
  unfold readOption at read
  split at read
  · exact isOf_readLong read
  · exact isOf_readShort read

theorem has_of_readFrom {waiting : Option (OptionKey × String)}
    {given : List (OptionKey × String)} {others words : List String} {read : ReadWords}
    (waitingOf : ∀ option ∈ waiting, command.Has option.1)
    (givenOf : ∀ option ∈ given, command.Has option.1)
    (readEq : readFrom command waiting given others words = .ok read) :
    ∀ option ∈ read.given, command.Has option.1 := by
  fun_induction readFrom command waiting given others words with
  | case1 => cases readEq
  | case2 given others =>
      cases readEq
      simpa using givenOf
  | case3 given others word rest key name ih =>
      have keyOf := waitingOf (key, name) rfl
      exact ih nofun (List.forall_mem_cons.mpr ⟨keyOf, givenOf⟩) readEq
  | case4 given others rest =>
      cases readEq
      simpa using givenOf
  | case5 => cases readEq
  | case6 given others word rest _ _ reading optionRead ih =>
      have readingOf := isOf_readOption optionRead
      refine ih readingOf.waiting (List.forall_mem_append.mpr ⟨?_, givenOf⟩) readEq
      simpa using readingOf.given
  | case7 given others word rest _ _ _ ih => exact ih nofun givenOf readEq
  | case8 given others word rest =>
      cases readEq
      simpa using givenOf

/-- All options that are read are options of the command. -/
theorem has_of_readWords {words : List String} {read : ReadWords}
    (readEq : readWords command words = .ok read) :
    ∀ option ∈ read.given, command.Has option.1 :=
  has_of_readFrom (by simp) (by simp) readEq

end CommandLine

end Lookalike
