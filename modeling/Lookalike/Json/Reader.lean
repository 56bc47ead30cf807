import Lookalike.Json.Basic
import Lookalike.Number.Numeral

/-!
# Reading JSON

A reader for JSON text.  Whether a number has a fraction or an exponent decides if it
is read as a floating-point number or as an integer, and integers may have any size.
The readers take what bounds them as their first argument.  A level is entered by two
calls and takes at least one character, so twice the length of the text is enough.
-/

namespace Lookalike

namespace Json

/-- Whether a character is white space between JSON tokens. -/
def isSpace (letter : Char) : Bool :=
  letter = ' ' || letter = '\n' || letter = '\r' || letter = '\t'

/-- The rest of a text behind white space. -/
def skipSpace (letters : List Char) : List Char :=
  letters.dropWhile isSpace

/-- The value of a hexadecimal digit. -/
def hexDigit? (letter : Char) : Option Nat :=
  if letter.isDigit then some (letter.toNat - '0'.toNat)
  else if 'a' ≤ letter ∧ letter ≤ 'f' then some (letter.toNat - 'a'.toNat + 10)
  else if 'A' ≤ letter ∧ letter ≤ 'F' then some (letter.toNat - 'A'.toNat + 10)
  else none

/-- Reads the four digits of a UTF-16 unit. -/
def readUnit? : List Char → Option (Nat × List Char)
  | first :: second :: third :: fourth :: rest => do
      let high := (← hexDigit? first) * 4096 + (← hexDigit? second) * 256
      let low := (← hexDigit? third) * 16 + (← hexDigit? fourth)
      some (high + low, rest)
  | _ => none

/-- Reads the character that an escape names, after its `\u`. -/
def readEscapedPoint? (letters : List Char) : Option (Char × List Char) := do
  let (unit, rest) ← readUnit? letters
  match rest with
  | '\\' :: 'u' :: more =>
      if 0xD800 ≤ unit ∧ unit < 0xDC00 then
        let (second, rest) ← readUnit? more
        if 0xDC00 ≤ second ∧ second < 0xE000 then
          some (Char.ofNat (0x10000 + (unit - 0xD800) * 0x400 + (second - 0xDC00)), rest)
        else none
      else some (Char.ofNat unit, rest)
  | _ => some (Char.ofNat unit, rest)

/-- Reads a string to its closing quote; `found` holds its characters, last first. -/
def readString? : (bound : Nat) → (found : List Char) → List Char → Option (String × List Char)
  | 0, _, _ => none
  | bound + 1, found, letters =>
      match letters with
      | '"' :: rest => some (String.ofList found.reverse, rest)
      | '\\' :: 'u' :: rest =>
          match readEscapedPoint? rest with
          | some (letter, rest) => readString? bound (letter :: found) rest
          | none => none
      | '\\' :: letter :: rest =>
          let plain :=
            if letter = 'n' then '\n'
            else if letter = 'r' then '\r'
            else if letter = 't' then '\t'
            else if letter = 'b' then '\x08'
            else if letter = 'f' then '\x0c'
            else letter
          readString? bound (plain :: found) rest
      | letter :: rest => readString? bound (letter :: found) rest
      | [] => none

/-- Whether a character can stand in a number. -/
def isNumberLetter (letter : Char) : Bool :=
  letter.isDigit || letter = '-' || letter = '+' || letter = '.' || letter = 'e' || letter = 'E'

/-- Reads a number from its letters. -/
def readNumber? (letters : List Char) : Option Json :=
  let (negative, digits) := splitSign letters
  if digits.all Char.isDigit then
    if digits.isEmpty then none
    else some (.int (if negative then -(digitsValue digits : Int) else digitsValue digits))
  else (readUnsignedFloat? negative digits).map .float

mutual

/-- Reads a value at the start of a text. -/
def readValue? : (bound : Nat) → List Char → Option (Json × List Char)
  | 0, _ => none
  | bound + 1, letters =>
      match skipSpace letters with
      | '"' :: rest => (readString? bound [] rest).map fun (text, rest) =>
          (.string text, rest)
      | '[' :: rest =>
          match skipSpace rest with
          | ']' :: rest => some (.array [], rest)
          | rest => (readItems? bound rest).map fun (items, rest) => (.array items, rest)
      | '\x7b' :: rest =>
          match skipSpace rest with
          | '\x7d' :: rest => some (.object [], rest)
          | rest => (readFields? bound rest).map fun (fields, rest) => (.object fields, rest)
      | 't' :: 'r' :: 'u' :: 'e' :: rest => some (.bool true, rest)
      | 'f' :: 'a' :: 'l' :: 's' :: 'e' :: rest => some (.bool false, rest)
      | 'n' :: 'u' :: 'l' :: 'l' :: rest => some (.null, rest)
      | letters =>
          (readNumber? (letters.takeWhile isNumberLetter)).map fun value =>
            (value, letters.dropWhile isNumberLetter)

/-- Reads the items of an array to its closing bracket. -/
def readItems? : (bound : Nat) → List Char → Option (List Json × List Char)
  | 0, _ => none
  | bound + 1, letters =>
      match readValue? bound letters with
      | none => none
      | some (item, rest) =>
          match skipSpace rest with
          | ',' :: rest => (readItems? bound rest).map fun (items, rest) => (item :: items, rest)
          | ']' :: rest => some ([item], rest)
          | _ => none

/-- Reads the fields of an object to its closing brace. -/
def readFields? : (bound : Nat) → List Char → Option (List (String × Json) × List Char)
  | 0, _ => none
  | bound + 1, letters =>
      match skipSpace letters with
      | '"' :: rest =>
          match readString? bound [] rest with
          | none => none
          | some (name, rest) =>
              match skipSpace rest with
              | ':' :: rest =>
                  match readValue? bound rest with
                  | none => none
                  | some (value, rest) =>
                      match skipSpace rest with
                      | ',' :: rest => (readFields? bound rest).map fun (fields, rest) =>
                          ((name, value) :: fields, rest)
                      | '\x7d' :: rest => some ([(name, value)], rest)
                      | _ => none
              | _ => none
      | _ => none

end

/-- Reads a JSON text. -/
def read? (text : String) : Option Json :=
  let letters := text.toList
  match readValue? (2 * letters.length + 2) letters with
  | some (value, rest) => if (skipSpace rest).isEmpty then some value else none
  | none => none

end Json

end Lookalike
