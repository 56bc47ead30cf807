import Lookalike.Number.Places

/-!
# Numbers as they are given

A setting or a value read from text is either an integer of any size or a
floating-point number.  The two kinds are kept apart because they are written
differently, and they are compared by their exact values.
-/

namespace Lookalike

/-- An integer or a floating-point number. -/
inductive Number where
  | int (value : Int)
  | float (value : Binary64)
  deriving DecidableEq, Inhabited

namespace Number

/-- The number's text: an integer in full, a float with the fewest digits. -/
def text : Number → String
  | int value => toString value
  | float value => value.text

/-- Compares a number with an integer, without rounding either. -/
def ltInt (number : Number) (bound : Int) : Bool :=
  match number with
  | int value => value < bound
  | float value => value.lt (.finite bound)

/-- Whether a number is at most an integer, without rounding either. -/
def leInt (number : Number) (bound : Int) : Bool :=
  match number with
  | int value => value ≤ bound
  | float value => value.le (.finite bound)

/-- Whether an integer is at most a number, without rounding either. -/
def geInt (number : Number) (bound : Int) : Bool :=
  match number with
  | int value => bound ≤ value
  | float value => Binary64.le (.finite bound) value

/-- Whether a number is at most a floating-point number, without rounding either. -/
def leFloat (number : Number) (bound : Binary64) : Bool :=
  match number with
  | int value => Binary64.le (.finite value) bound
  | float value => value.le bound

/-- The product with a positive integer; a float is rounded once. -/
def scale (number : Number) (factor : Nat) : Number :=
  match number with
  | int value => int (value * factor)
  | float value => float (value.scale factor)

/-- The nearest floating-point number; `none` for an integer that is too large. -/
def toFloat? : Number → Option Binary64
  | int value => Binary64.ofInt? value
  | float value => some value

end Number

end Lookalike
