/-!
# Binary floating-point numbers, exactly

A `Binary64` is a value of the IEEE 754 double format.  A finite value is kept
as the rational number it denotes, so that comparing, multiplying and printing
are exact arithmetic and only `Binary64.ofRatio` rounds: to the nearest
representable value, a tie going to the even significand.
-/

namespace Lookalike

-- Powers of whole numbers are the built-in ones, whatever else is in sight.
attribute [local instance (1100)] instPowNat

/-- The quotient of two natural numbers rounded to the nearest natural number; a
tie goes to the even neighbour. -/
def roundHalfEven (numerator denominator : Nat) : Nat :=
  let quotient := numerator / denominator
  let twice := 2 * (numerator % denominator)
  if twice < denominator then quotient
  else if denominator < twice then quotient + 1
  else if quotient % 2 = 0 then quotient
  else quotient + 1

/-- The rational number `numerator * 2 ^ exponent`. -/
def scaleByTwo (numerator : Int) (exponent : Int) : Rat :=
  if 0 ≤ exponent then ((numerator * 2 ^ exponent.toNat : Int) : Rat)
  else mkRat numerator (2 ^ (-exponent).toNat)

/-- Whether `2 ^ exponent` is at most `numerator / denominator`. -/
def twoPowerFits (exponent : Int) (numerator denominator : Nat) : Bool :=
  if 0 ≤ exponent then denominator * 2 ^ exponent.toNat ≤ numerator
  else denominator ≤ numerator * 2 ^ (-exponent).toNat

/-- The greatest exponent whose power of two is at most `numerator / denominator`,
for positive arguments. -/
def floorLogTwo (numerator denominator : Nat) : Int :=
  let guess : Int := numerator.log2 - denominator.log2
  if twoPowerFits guess numerator denominator then guess else guess - 1

/-- A number of the IEEE 754 binary64 format. -/
inductive Binary64 where
  | nan
  | infinity (negative : Bool)
  | negativeZero
  | finite (value : Rat)
  deriving DecidableEq, Inhabited

namespace Binary64

/-- The number of bits of a significand. -/
def precision : Nat := 53

/-- The exponent of the last bit of every subnormal number. -/
def leastExponent : Int := -1074

/-- The exponent of the last bit of the greatest finite number. -/
def greatestExponent : Int := 971

/-- Zero with a sign. -/
def zero (negative : Bool) : Binary64 :=
  if negative then negativeZero else finite 0

def one : Binary64 := finite 1

/-- The exponent of the last significand bit with which a positive ratio is stored. -/
def lastBitExponent (numerator denominator : Nat) : Int :=
  max (floorLogTwo numerator denominator - 52) leastExponent

/-- The integer significand of a positive ratio, once it is rounded to the last bit
that the format keeps. -/
def significand (numerator denominator : Nat) : Nat :=
  let exponent := lastBitExponent numerator denominator
  if 0 ≤ exponent then roundHalfEven numerator (denominator * 2 ^ exponent.toNat)
  else roundHalfEven (numerator * 2 ^ (-exponent).toNat) denominator

/-- The representable number nearest to `numerator / denominator`, ties to even;
past the greatest finite number it is infinite. -/
def ofRatio (negative : Bool) (numerator denominator : Nat) : Binary64 :=
  if numerator = 0 then zero negative
  else
    let exponent := lastBitExponent numerator denominator
    let digits := significand numerator denominator
    if digits = 0 then zero negative
    else if greatestExponent < exponent ∨
        exponent = greatestExponent ∧ 2 ^ precision ≤ digits then infinity negative
    else finite (scaleByTwo (if negative then -digits else digits) exponent)

/-- The representable number nearest to a rational number. -/
def ofRat (value : Rat) : Binary64 :=
  ofRatio (value.num < 0) value.num.natAbs value.den

/-- The representable number nearest to an integer; `none` when it would be infinite. -/
def ofInt? (value : Int) : Option Binary64 :=
  match ofRatio (value < 0) value.natAbs 1 with
  | infinity _ => none
  | number => some number

/-- The rational number that a finite value denotes. -/
def toRat? : Binary64 → Option Rat
  | nan => none
  | infinity _ => none
  | negativeZero => some 0
  | finite value => some value

/-- Numeric order: false as soon as one side is not a number. -/
def lt : Binary64 → Binary64 → Bool
  | nan, _ => false
  | _, nan => false
  | infinity left, infinity right => left && !right
  | infinity left, _ => left
  | _, infinity right => !right
  | left, right => (left.toRat?.getD 0) < (right.toRat?.getD 0)

/-- Numeric equality: the two zeros are equal and nothing equals a NaN. -/
def numEq : Binary64 → Binary64 → Bool
  | nan, _ => false
  | _, nan => false
  | infinity left, infinity right => left == right
  | infinity _, _ => false
  | _, infinity _ => false
  | left, right => (left.toRat?.getD 0) = (right.toRat?.getD 0)

def le (left right : Binary64) : Bool :=
  lt left right || numEq left right

def isFinite (number : Binary64) : Bool :=
  number.toRat?.isSome

/-- The product with a positive integer, rounded once. -/
def scale (number : Binary64) (factor : Nat) : Binary64 :=
  match number with
  | finite value => ofRat (value * (factor : Rat))
  | other => other

/-- The integer part of a finite number, toward zero; zero for the others. -/
def truncate (number : Binary64) : Int :=
  match number.toRat? with
  | some value => value.num.tdiv value.den
  | none => 0

end Binary64

end Lookalike
