import Lookalike.Text.Printable

/-!
# Quoted texts

A text inside a message stands in single quotes, or in double quotes when it holds a
single quote and no double quote.  The quote, the backslash and whatever is not
printable are escaped.
-/

namespace Lookalike

/-- A number in lower-case hexadecimal digits, padded with zeros to a width. -/
def hexDigits (width number : Nat) : String :=
  let digits := String.ofList (Nat.toDigits 16 number)
  String.ofList (List.replicate (width - digits.length) '0') ++ digits

/-- The escaped form of a character between quotes. -/
def escapeLetter (quote letter : Char) : String :=
  if letter = quote ∨ letter = '\\' then String.ofList ['\\', letter]
  else if letter = '\n' then "\\n"
  else if letter = '\r' then "\\r"
  else if letter = '\t' then "\\t"
  else if isPrintable letter then String.singleton letter
  else if letter.toNat ≤ 0xFF then "\\x" ++ hexDigits 2 letter.toNat
  else if letter.toNat ≤ 0xFFFF then "\\u" ++ hexDigits 4 letter.toNat
  else "\\U" ++ hexDigits 8 letter.toNat

/-- The quote that a text is written with. -/
def chooseQuote (text : String) : Char :=
  if text.contains '\'' ∧ ¬ text.contains '"' then '"' else '\''

/-- A text in quotes. -/
def quoted (text : String) : String :=
  let quote := chooseQuote text
  String.singleton quote ++ String.join (text.toList.map (escapeLetter quote)) ++
    String.singleton quote

end Lookalike
