import Lookalike.Number.Shortest

/-!
# Fixed places and digit groups

Numbers shown to people: a fixed number of decimal places, rounded half to even on
the exact value, padded on the left to a width; and whole numbers with their digits
in groups of three.
-/

namespace Lookalike

-- Powers of whole numbers are the built-in ones, whatever else is in sight.
attribute [local instance (1100)] instPowNat

/-- The digits of `numerator / denominator` with a fixed number of decimal places. -/
def fixedDigits (places numerator denominator : Nat) : String :=
  let scaled := roundHalfEven (numerator * 10 ^ places) denominator
  let digits := padZeros (places + 1) (toString scaled)
  if places = 0 then digits
  else
    let whole := digits.length - places
    (digits.take whole).toString ++ "." ++ (digits.drop whole).toString

/-- A number with a fixed number of decimal places.  A negative number keeps its sign
also when it rounds to zero. -/
def Binary64.fixed (places : Nat) : Binary64 → String
  | .nan => "nan"
  | .infinity negative => if negative then "-inf" else "inf"
  | .negativeZero => "-" ++ fixedDigits places 0 1
  | .finite value =>
      (if value < 0 then "-" else "") ++ fixedDigits places value.num.natAbs value.den

/-- Pads with spaces on the left to a given width. -/
def padLeft (width : Nat) (text : String) : String :=
  String.ofList (List.replicate (width - text.length) ' ') ++ text

/-- Pads with spaces on the right to a given width. -/
def padRight (width : Nat) (text : String) : String :=
  text ++ String.ofList (List.replicate (width - text.length) ' ')

/-- Puts a comma before every third digit, counted from the right; the digits come
last first. -/
def groupReversed : List Char → List Char
  | first :: second :: third :: fourth :: rest =>
      first :: second :: third :: ',' :: groupReversed (fourth :: rest)
  | digits => digits

/-- A whole number with its digits in groups of three. -/
def grouped (number : Nat) : String :=
  String.ofList (groupReversed (toString number).toList.reverse).reverse

end Lookalike
