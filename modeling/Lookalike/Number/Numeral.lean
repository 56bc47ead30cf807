import Lookalike.Number
import Lookalike.Text.Blank
import Lookalike.Text.DecimalDigit

/-!
# Reading numerals

Numbers in settings are written as people write them: white space around, digits of
any script, single underscores between digits.  `readFloat?` takes decimal and
exponent notation and the names of infinity and NaN, `readInteger?` whole numbers.
-/

namespace Lookalike

-- Powers of whole numbers are the built-in ones, whatever else is in sight.
attribute [local instance (1100)] instPowNat

/-- The nearest representable number to `digits * 10 ^ exponent`.  Past the range of the
format the power of ten is never computed. -/
def Binary64.ofScientific (negative : Bool) (digits : Nat) (exponent : Int) : Binary64 :=
  let places : Int := (Nat.toDigits 10 digits).length
  if digits = 0 then zero negative
  else if 400 < places + exponent then infinity negative
  else if places + exponent < -400 then zero negative
  else if 0 ≤ exponent then ofRatio negative (digits * 10 ^ exponent.toNat) 1
  else ofRatio negative digits (10 ^ (-exponent).toNat)

/-- White space that may surround a numeral: the blanks without the four information
separators. -/
def surroundsNumeral (letter : Char) : Bool :=
  isBlank letter && !(0x1C ≤ letter.toNat && letter.toNat ≤ 0x1F)

/-- The letters of a numeral: without white space around, digits in ASCII. -/
def numeralLetters (text : String) : List Char :=
  (trimBoth surroundsNumeral text.toList).map fun letter =>
    match decimalDigit? letter with
    | some digit => Char.ofNat ('0'.toNat + digit)
    | none => letter

/-- Removes underscores; `none` if one does not stand between two digits.  `afterDigit`
says whether the letter before was a digit. -/
def joinDigitGroups (afterDigit : Bool) : List Char → Option (List Char)
  | [] => some []
  | '_' :: digit :: rest =>
      if afterDigit ∧ digit.isDigit then (digit :: ·) <$> joinDigitGroups true rest else none
  | ['_'] => none
  | letter :: rest => (letter :: ·) <$> joinDigitGroups letter.isDigit rest

/-- The value of a run of digits. -/
def digitsValue (digits : List Char) : Nat :=
  digits.foldl (fun value digit => value * 10 + (digit.toNat - '0'.toNat)) 0

/-- Splits a sign off: whether the number is negative, and the rest. -/
def splitSign : List Char → Bool × List Char
  | '-' :: rest => (true, rest)
  | '+' :: rest => (false, rest)
  | letters => (false, letters)

/-- Reads the exponent of a numeral, to the end of the text. -/
def readExponent? : List Char → Option Int
  | [] => some 0
  | letter :: rest =>
      if letter = 'e' ∨ letter = 'E' then
        let (negative, digits) := splitSign rest
        if digits.isEmpty ∨ ¬ digits.all Char.isDigit then none
        else some (if negative then -(digitsValue digits : Int) else digitsValue digits)
      else none

/-- Reads an unsigned decimal numeral with the given sign. -/
def readUnsignedFloat? (negative : Bool) (letters : List Char) : Option Binary64 :=
  let whole := letters.takeWhile Char.isDigit
  let rest := letters.dropWhile Char.isDigit
  let (fraction, rest) :=
    match rest with
    | '.' :: rest => (rest.takeWhile Char.isDigit, rest.dropWhile Char.isDigit)
    | rest => ([], rest)
  if whole.isEmpty ∧ fraction.isEmpty then none
  else (readExponent? rest).map fun exponent =>
    .ofScientific negative (digitsValue (whole ++ fraction)) (exponent - fraction.length)

/-- Reads a floating-point number. -/
def readFloat? (text : String) : Option Binary64 := do
  let letters ← joinDigitGroups false (numeralLetters text)
  let (negative, rest) := splitSign letters
  let name := String.ofList (rest.map Char.toLower)
  if name = "inf" ∨ name = "infinity" then some (.infinity negative)
  else if name = "nan" then some .nan
  else readUnsignedFloat? negative rest

/-- The greatest number of digits of an integer that is read. -/
def greatestDigitCount : Nat := 4300

/-- Reads an integer. -/
def readInteger? (text : String) : Option Int := do
  let letters ← joinDigitGroups false (numeralLetters text)
  let (negative, digits) := splitSign letters
  if digits.isEmpty ∨ ¬ digits.all Char.isDigit ∨ greatestDigitCount < digits.length then none
  else some (if negative then -(digitsValue digits : Int) else digitsValue digits)

end Lookalike
