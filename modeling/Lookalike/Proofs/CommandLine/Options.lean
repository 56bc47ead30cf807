import Lookalike.CommandLine
import Mathlib.Data.List.Basic

/-!
# Reading the options that are written

Options that are written in words of their own are read back as they were chosen, whichever of
them are left out.  Behind two dashes stand the paths, which are read as they are, even those
that look like options.
-/

namespace Lookalike

namespace CommandLine

/-! ### Options in words of their own -/

/-- The words of an option with a value, unless it is left out. -/
def valueWords (name : String) (value : Option String) : List String :=
  value.elim [] fun text => [name, text]

def valueGiven (key : OptionKey) (value : Option String) : List (OptionKey × String) :=
  value.elim [] fun text => [(key, text)]

/-- The word of an option without a value, unless it is left out. -/
def flagWords (name : String) (flag : Bool) : List String :=
  if flag then [name] else []

def flagGiven (key : OptionKey) (flag : Bool) : List (OptionKey × String) :=
  if flag then [(key, "")] else []

section

variable (key : OptionKey) (value : Option String) (flag : Bool)

@[simp]
theorem reverse_valueGiven : (valueGiven key value).reverse = valueGiven key value := by
  cases value <;> rfl

@[simp]
theorem reverse_flagGiven : (flagGiven key flag).reverse = flagGiven key flag := by
  cases flag <;> rfl

@[simp]
theorem any_valueGiven (sought : OptionKey) :
    (valueGiven key value).any (·.1 == sought) = (decide (key = sought) && value.isSome) := by
  cases value <;> simp [valueGiven, beq_eq_decide]

@[simp]
theorem any_flagGiven (sought : OptionKey) :
    (flagGiven key flag).any (·.1 == sought) = (decide (key = sought) && flag) := by
  cases flag <;> simp [flagGiven, beq_eq_decide]

@[simp]
theorem find?_valueGiven (sought : OptionKey) :
    ((valueGiven key value).find? (·.1 == sought)).map (·.2) =
      if key = sought then value else none := by
  by_cases same : key = sought <;> cases value <;> simp [valueGiven, same]

theorem find?_flagGiven {sought : OptionKey} (ne : key ≠ sought) :
    (flagGiven key flag).find? (·.1 == sought) = none := by
  cases flag <;> simp [flagGiven, ne]

end

section

variable {command : CommandForm} {name : String} (key : OptionKey)

theorem readFrom_valueWords (isOption : isOptionWord name.toList = true) (ne : name ≠ "--")
    (opens : readOption command name.toList = .ok { waiting := some (key, name) })
    (value : Option String) (given : List (OptionKey × String)) (others rest : List String) :
    readFrom command none given others (valueWords name value ++ rest) =
      readFrom command none (valueGiven key value ++ given) others rest := by
  cases value with
  | none => rfl
  | some text => simp [valueWords, valueGiven, readFrom, isOption, ne, opens]

theorem readFrom_flagWords (isOption : isOptionWord name.toList = true) (ne : name ≠ "--")
    (reads : readOption command name.toList = .ok { given := [(key, "")] })
    (flag : Bool) (given : List (OptionKey × String)) (others rest : List String) :
    readFrom command none given others (flagWords name flag ++ rest) =
      readFrom command none (flagGiven key flag ++ given) others rest := by
  cases flag with
  | false => rfl
  | true => simp [flagWords, flagGiven, readFrom, isOption, ne, reads]

end

/-! ### Options of a check -/

/-- A text that is read as a threshold. -/
structure ThresholdText where
  text : String
  threshold : Threshold
  read : readFloat? text = some threshold.number

/-- A choice among the options of a check. -/
structure CheckOptions where
  /-- The threshold before the command. -/
  topThreshold : Option ThresholdText := none
  /-- The threshold behind the command. -/
  ownThreshold : Option ThresholdText := none
  nested : Bool := false
  failOnMatch : Bool := false
  verbose : Bool := false
  format : Option String := none
  known : ∀ name ∈ format, name ∈ formats := by nofun

namespace CheckOptions

variable (options : CheckOptions) (paths : List String)

/-- The words behind the command. -/
def ownWords : List String :=
  valueWords "-t" (options.ownThreshold.map (·.text)) ++
    (flagWords "--nested" options.nested ++
      (flagWords "--fail-on-match" options.failOnMatch ++
        (flagWords "-v" options.verbose ++
          (valueWords "-f" options.format ++ "--" :: paths))))

/-- The words of a check with these options on some paths. -/
def words : List String :=
  valueWords "-t" (options.topThreshold.map (·.text)) ++ "check" :: options.ownWords paths

/-- What is read before the command. -/
def top : ReadWords :=
  { given := valueGiven .threshold (options.topThreshold.map (·.text))
    words := "check" :: options.ownWords paths }

/-- What is read behind the command. -/
def own : ReadWords :=
  { given :=
      valueGiven .threshold (options.ownThreshold.map (·.text)) ++
        (flagGiven .nested options.nested ++
          (flagGiven .failOnMatch options.failOnMatch ++
            (flagGiven .verbose options.verbose ++ valueGiven .format options.format)))
    words := paths }

theorem readWords_words : readWords topForm (options.words paths) = .ok (options.top paths) := by
  rw [readWords, words, readFrom_valueWords .threshold (by decide) (by decide) rfl]
  simp [readFrom, isOptionWord, topForm, top]

theorem readWords_ownWords :
    readWords checkForm (options.ownWords paths) = .ok (options.own paths) := by
  rw [readWords, ownWords, readFrom_valueWords .threshold (by decide) (by decide) rfl,
    readFrom_flagWords .nested (by decide) (by decide) rfl,
    readFrom_flagWords .failOnMatch (by decide) (by decide) rfl,
    readFrom_flagWords .verbose (by decide) (by decide) rfl,
    readFrom_valueWords .format (by decide) (by decide) rfl]
  simp [readFrom, own]

@[simp]
theorem value?_top_threshold :
    (options.top paths).value? .threshold = options.topThreshold.map (·.text) := by
  simp [top, ReadWords.value?]

@[simp]
theorem value?_own_threshold :
    (options.own paths).value? .threshold = options.ownThreshold.map (·.text) := by
  simp [own, ReadWords.value?, List.find?_append, find?_flagGiven, Option.map_or]

@[simp]
theorem value?_own_format : (options.own paths).value? .format = options.format := by
  simp [own, ReadWords.value?, List.find?_append, find?_flagGiven, Option.map_or]

/-- Just the options that are chosen are read. -/
theorem has_own (key : OptionKey) :
    (options.own paths).has key =
      match key with
      | .threshold => options.ownThreshold.isSome
      | .nested => options.nested
      | .failOnMatch => options.failOnMatch
      | .verbose => options.verbose
      | .format => options.format.isSome
      | _ => false := by
  cases key <;> simp [own, ReadWords.has, List.any_append]

theorem early?_top : early? topForm (options.top paths) = none := by
  rw [early?, ReadWords.keys, top]
  cases options.topThreshold <;> rfl

end CheckOptions

end CommandLine

end Lookalike
