import Lookalike.Source.Numeral
import Lookalike.Text.CharacterName

/-!
# Escapes in text literals

A backslash in a literal that is not raw begins an escape.  Escapes that name a
character by its number or by its name can be wrong; all others are taken as they are.
-/

namespace Lookalike.Source

/-- The value of hexadecimal digits. -/
def hexadecimal (letters : List Char) : Nat :=
  letters.foldl (fun value letter =>
    value * 16 +
      (if isDigit letter then letter.toNat - 48
        else if letter.toNat < 97 then letter.toNat - 55 else letter.toNat - 87)) 0

/-- Whether a text begins with a number of hexadecimal digits. -/
def beginsWithHex (count : Nat) (letters : List Char) : Bool :=
  let digits := letters.take count
  digits.length = count && digits.all isHexDigit

/-- Whether a text begins with the name of a character in braces. -/
def beginsWithName (letters : List Char) : Bool :=
  match letters with
  | '\x7b' :: rest =>
      rest.contains '\x7d' && isCharacterName (String.ofList (rest.takeWhile (· ≠ '\x7d')))
  | _ => false

/-- Whether every escape in a text literal stands for something. -/
def areEscapesValid (isBytes : Bool) : List Char → Bool
  | '\\' :: 'x' :: rest => beginsWithHex 2 rest && areEscapesValid isBytes rest
  | '\\' :: 'u' :: rest =>
      (isBytes || beginsWithHex 4 rest) && areEscapesValid isBytes rest
  | '\\' :: 'U' :: rest =>
      (isBytes || (beginsWithHex 8 rest && hexadecimal (rest.take 8) ≤ 0x10FFFF)) &&
        areEscapesValid isBytes rest
  | '\\' :: 'N' :: rest =>
      (isBytes || beginsWithName rest) && areEscapesValid isBytes rest
  | '\\' :: _ :: rest => areEscapesValid isBytes rest
  | _ :: rest => areEscapesValid isBytes rest
  | [] => true

end Lookalike.Source
