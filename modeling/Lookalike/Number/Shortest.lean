import Lookalike.Number.Binary64

/-!
# Shortest decimal text

`Binary64.shortest` finds the fewest decimal digits that still read back as the
same number, and among those the digits nearest to it.  `Binary64.text` lays
them out: positionally while the leading digit stands between the ten-thousandths
place and the sixteenth place left of the point, in exponent form otherwise.
-/

namespace Lookalike

-- Powers of whole numbers are the built-in ones, whatever else is in sight.
attribute [local instance (1100)] instPowNat

/-- A positive decimal number `digits * 10 ^ exponent`. -/
structure Decimal where
  digits : Nat
  exponent : Int
  deriving DecidableEq, Repr

/-- The rational number `digits * 10 ^ exponent`. -/
def Decimal.value (decimal : Decimal) : Rat :=
  if 0 ≤ decimal.exponent then ((decimal.digits * 10 ^ decimal.exponent.toNat : Nat) : Rat)
  else mkRat decimal.digits (10 ^ (-decimal.exponent).toNat)

/-- Whether `10 ^ exponent` is at most `value`. -/
def tenPowerFits (exponent : Int) (value : Rat) : Bool :=
  decide (Decimal.value ⟨1, exponent⟩ ≤ value)

/-- The place of the leading decimal digit of a positive number. -/
def floorLogTen (value : Rat) : Int :=
  let guess := (floorLogTwo value.num.natAbs value.den * 1233).fdiv 4096
  if tenPowerFits (guess + 1) value then guess + 1
  else if tenPowerFits guess value then guess
  else guess - 1

/-- The rational numbers that round to one given representable number. -/
structure RoundingInterval where
  lower : Rat
  upper : Rat
  closed : Bool

namespace RoundingInterval

/-- The interval around a positive representable number: half way to both neighbours,
the ends belonging to it when the significand is even. -/
def around (value : Rat) : RoundingInterval :=
  let exponent := Binary64.lastBitExponent value.num.natAbs value.den
  let significand := Binary64.significand value.num.natAbs value.den
  let below :=
    if significand = 2 ^ (Binary64.precision - 1) ∧ Binary64.leastExponent < exponent then
      scaleByTwo (4 * significand - 1) (exponent - 2)
    else scaleByTwo (2 * significand - 1) (exponent - 1)
  { lower := below
    upper := scaleByTwo (2 * significand + 1) (exponent - 1)
    closed := significand % 2 = 0 }

def contains (interval : RoundingInterval) (value : Rat) : Bool :=
  if interval.closed then interval.lower ≤ value ∧ value ≤ interval.upper
  else interval.lower < value ∧ value < interval.upper

end RoundingInterval

/-- The decimal with the given last place that lies in `interval` nearest to `value`,
looked for among the two neighbours of `value`; a tie takes the even digits. -/
def nearestAtPlace (value : Rat) (interval : RoundingInterval) (place : Int) :
    Option Decimal :=
  let scaled := value / Decimal.value ⟨1, place⟩
  let low : Decimal := ⟨scaled.floor.toNat, place⟩
  let high : Decimal := ⟨scaled.floor.toNat + 1, place⟩
  match interval.contains low.value, interval.contains high.value with
  | true, true =>
      let below := value - low.value
      let above := high.value - value
      some (if below < above ∨ below = above ∧ low.digits % 2 = 0 then low else high)
  | true, false => some low
  | false, true => some high
  | false, false => none

/-- Searches places from the leading digit downwards, for at most `count` places. -/
def searchPlaces (value : Rat) (interval : RoundingInterval) :
    (count : Nat) → (place : Int) → Option Decimal
  | 0, _ => none
  | count + 1, place =>
      (nearestAtPlace value interval place).or (searchPlaces value interval count (place - 1))

/-- Drops the zeros at the end of the digits, at most `count` of them. -/
def dropTrailingZeros : (count : Nat) → Decimal → Decimal
  | 0, decimal => decimal
  | count + 1, decimal =>
      if decimal.digits ≠ 0 ∧ decimal.digits % 10 = 0 then
        dropTrailingZeros count ⟨decimal.digits / 10, decimal.exponent + 1⟩
      else decimal

/-- The shortest decimal that reads back as a positive representable number.  Seventeen
digits always suffice. -/
def shortestDecimal (value : Rat) : Decimal :=
  let found := searchPlaces value (RoundingInterval.around value) 17 (floorLogTen value)
  dropTrailingZeros 18 (found.getD ⟨0, 0⟩)

/-- Pads with zeros on the left to a given width. -/
def padZeros (width : Nat) (digits : String) : String :=
  String.ofList (List.replicate (width - digits.length) '0') ++ digits

/-- How many zeros are written for a run of places without digits. -/
def zeros (count : Nat) : String :=
  String.ofList (List.replicate count '0')

/-- The text of a shortest decimal.  Positional notation is kept while the leading
digit is at the fourth decimal place or left of it and left of it by less than
sixteen places; an exponent has a sign and at least two digits. -/
def Decimal.text (decimal : Decimal) : String :=
  let digits := toString decimal.digits
  let point := (digits.length : Int) + decimal.exponent
  let leading := point - 1
  if leading < -4 ∨ 16 ≤ leading then
    let fraction := (digits.drop 1).toString
    let mantissa := (digits.take 1).toString ++ (if fraction.isEmpty then "" else "." ++ fraction)
    let sign := if leading < 0 then "-" else "+"
    mantissa ++ "e" ++ sign ++ padZeros 2 (toString leading.natAbs)
  else if point ≤ 0 then "0." ++ zeros (-point).toNat ++ digits
  else if 0 ≤ decimal.exponent then digits ++ zeros decimal.exponent.toNat ++ ".0"
  else (digits.take point.toNat).toString ++ "." ++ (digits.drop point.toNat).toString

/-- The text of a number: the fewest digits that read back, `nan`, `inf` or `-inf`. -/
def Binary64.text : Binary64 → String
  | .nan => "nan"
  | .infinity negative => if negative then "-inf" else "inf"
  | .negativeZero => "-0.0"
  | .finite value =>
      if value = 0 then "0.0"
      else if value < 0 then "-" ++ (shortestDecimal (-value)).text
      else (shortestDecimal value).text

end Lookalike
