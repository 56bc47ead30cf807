import Lookalike.Json.Basic

/-!
# Similarity thresholds

A threshold is a number above zero and at most one.  A number outside of that range is
refused and never moved into it.
-/

namespace Lookalike

/-- A usable similarity threshold. -/
structure Threshold where
  value : Rat
  positive : 0 < value
  le_one : value ≤ 1
  deriving DecidableEq

/-- Why a value is no threshold. -/
inductive ThresholdError where
  /-- The value is no number. -/
  | notANumber (typeName : String)
  /-- The number, shown as it was given, is out of range. -/
  | outOfRange (shown : String)
  /-- The integer is past the range of floating-point numbers. -/
  | tooLarge
  deriving DecidableEq

namespace ThresholdError

/-- What is said about a value that is no threshold. -/
def message : ThresholdError → String
  | notANumber typeName => "Similarity threshold must be a number, got " ++ typeName ++ "."
  | outOfRange shown =>
      "Similarity threshold " ++ shown ++ " is outside the valid range (0.0, 1.0].\n" ++
        "  Set via: export NAMESAKE_SIMILARITY_THRESHOLD=0.75"
  | tooLarge => "int too large to convert to float"

end ThresholdError

namespace Threshold

/-- A threshold as a floating-point number. -/
def number (threshold : Threshold) : Binary64 :=
  .finite threshold.value

/-- Whether a score lies strictly above a threshold. -/
def isExceededBy (threshold : Threshold) (score : Binary64) : Bool :=
  threshold.number.lt score

/-- The threshold that a number is. -/
def ofNumber (number : Number) : Except ThresholdError Threshold :=
  match number.toFloat? with
  | none => .error .tooLarge
  | some float =>
      match float.toRat? with
      | none => .error (.outOfRange number.text)
      | some value =>
          if bounds : 0 < value ∧ value ≤ 1 then .ok ⟨value, bounds.1, bounds.2⟩
          else .error (.outOfRange number.text)

/-- The threshold that a value is. -/
def ofJson : Json → Except ThresholdError Threshold
  | .number number => ofNumber number
  | other => .error (.notANumber other.typeName)

/-- The threshold in force when none is given, three quarters, as it is given. -/
def defaultNumber : Binary64 := .finite (3 / 4)

end Threshold

end Lookalike
