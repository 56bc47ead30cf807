import Lookalike.Source.Cursor

/-!
# Numbers in a source text

Whole numbers are written in base two, eight, ten or sixteen, decimal numbers with a
point or an exponent, imaginary numbers with a final `j`.  Single underscores may stand
between digits.  Only the extent of a number and whether it is imaginary matter.
-/

namespace Lookalike.Source

/-- Whether a character is one of the ten digits. -/
def isDigit (letter : Char) : Bool := '0' ≤ letter && letter ≤ '9'

/-- Whether a character is a digit of base sixteen. -/
def isHexDigit (letter : Char) : Bool :=
  isDigit letter || ('a' ≤ letter && letter ≤ 'f') || ('A' ≤ letter && letter ≤ 'F')

/-- Whether a character is a digit of base eight. -/
def isOctalDigit (letter : Char) : Bool := '0' ≤ letter && letter ≤ '7'

/-- Whether a character is a digit of base two. -/
def isBinaryDigit (letter : Char) : Bool := letter = '0' || letter = '1'

/-- Whether a character can stand in a name; beyond ASCII the whole name decides. -/
def isNamePart (letter : Char) : Bool :=
  letter = '_' || isDigit letter || ('a' ≤ letter && letter ≤ 'z') ||
    ('A' ≤ letter && letter ≤ 'Z') || 128 ≤ letter.toNat

/-- Whether a character can begin a name. -/
def isNameStart (letter : Char) : Bool := isNamePart letter && !isDigit letter

/-- How many decimal digits a whole number may have. -/
def maximumDigits : Nat := 4300

/-- Collects digits after the first one.  An underscore needs a digit behind it. -/
def moreDigits (accept : Char → Bool) : List Char → Position → List Char →
    Option (List Char × Cursor)
  | '_' :: letter :: rest, position, found =>
      if accept letter then
        moreDigits accept rest ((position.after '_').after letter) (letter :: found)
      else none
  | ['_'], _, _ => none
  | letter :: rest, position, found =>
      if accept letter then moreDigits accept rest (position.after letter) (letter :: found)
      else some (found.reverse, ⟨letter :: rest, position⟩)
  | [], position, found => some (found.reverse, ⟨[], position⟩)

/-- The digits that follow a cursor, perhaps none at all. -/
def digits (accept : Char → Bool) (cursor : Cursor) : Option (List Char × Cursor) :=
  if cursor.nextIs accept then moreDigits accept cursor.rest cursor.position []
  else some ([], cursor)

/-- The words that may follow a number without a blank. -/
def numberFollowers : List String := ["and", "else", "for", "if", "in", "is", "or", "not"]

/-- Whether a number may end at a cursor. -/
def mayEndNumber (cursor : Cursor) : Bool :=
  numberFollowers.any cursor.startsWith || !cursor.nextIs isNamePart

/-- Ends a number at a cursor, where that is allowed. -/
def endNumber (isImaginary : Bool) (cursor : Cursor) : Option (Bool × Cursor) :=
  if mayEndNumber cursor then some (isImaginary, cursor) else none

/-- Ends a number, imaginary if its mark follows. -/
def endDecimal (cursor : Cursor) : Option (Bool × Cursor) :=
  if cursor.nextIs (fun letter => letter = 'j' || letter = 'J') then
    endNumber true cursor.advance
  else endNumber false cursor

/-- Whether a cursor stands at the mark of an exponent. -/
def atExponent (cursor : Cursor) : Bool :=
  cursor.nextIs fun letter => letter = 'e' || letter = 'E'

/-- Reads an exponent, behind its mark.  Where no digits follow, the mark can still be
the beginning of a word that may follow a number. -/
def readExponent (cursor : Cursor) : Option (Bool × Cursor) := do
  let behind := cursor.advance
  if behind.nextIs (fun letter => letter = '+' || letter = '-') then
    let (found, cursor) ← digits isDigit behind.advance
    if found.isEmpty then none else endDecimal cursor
  else
    let (found, behind) ← digits isDigit behind
    if found.isEmpty then
      if numberFollowers.any cursor.startsWith then some (false, cursor) else none
    else endDecimal behind

/-- Reads what may follow the whole digits and the point of a number. -/
def readFraction (cursor : Cursor) : Option (Bool × Cursor) := do
  let (_, cursor) ← digits isDigit cursor
  if atExponent cursor then readExponent cursor else endDecimal cursor

/-- Reads a number in a base other than ten, behind its base mark. -/
def readBased (accept : Char → Bool) (cursor : Cursor) : Option (Bool × Cursor) := do
  let (found, cursor) ←
    if cursor.nextIs (· = '_') then moreDigits accept cursor.rest cursor.position []
    else digits accept cursor
  if found.isEmpty || cursor.nextIs isDigit then none else endNumber false cursor

/-- Reads a number whose first digits are decimal.  Digits with a leading zero make a
whole number only if all of them are zeros. -/
def readDecimal (cursor : Cursor) : Option (Bool × Cursor) := do
  let (whole, cursor) ← digits isDigit cursor
  if cursor.nextIs (· = '.') then readFraction cursor.advance
  else if atExponent cursor then readExponent cursor
  else if cursor.nextIs (fun letter => letter = 'j' || letter = 'J') then endDecimal cursor
  else if whole.head? = some '0' then
    if whole.all (· = '0') then endNumber false cursor else none
  else if maximumDigits < whole.length then none
  else endNumber false cursor

/-- Reads a number and tells whether it is imaginary. -/
def readNumber (cursor : Cursor) : Option (Bool × Cursor) :=
  match cursor.rest with
  | '0' :: 'x' :: _ | '0' :: 'X' :: _ => readBased isHexDigit (cursor.skip 2)
  | '0' :: 'o' :: _ | '0' :: 'O' :: _ => readBased isOctalDigit (cursor.skip 2)
  | '0' :: 'b' :: _ | '0' :: 'B' :: _ => readBased isBinaryDigit (cursor.skip 2)
  | '.' :: _ => readFraction cursor.advance
  | _ => readDecimal cursor

end Lookalike.Source
