/-!
# Places in a source text

A cursor is what remains of a text together with the place where the remainder begins.
Lines count from one; columns count the bytes of the text's UTF-8 form from zero.
-/

namespace Lookalike.Source

/-- A place in a source text. -/
structure Position where
  line : Nat
  column : Nat
  deriving DecidableEq, Inhabited

namespace Position

/-- Where every text begins. -/
def start : Position := ⟨1, 0⟩

/-- The place behind a character that stands at a given place. -/
def after (position : Position) (letter : Char) : Position :=
  if letter = '\n' then ⟨position.line + 1, 0⟩
  else ⟨position.line, position.column + letter.utf8Size⟩

end Position

/-- The rest of a text and where it begins. -/
structure Cursor where
  rest : List Char
  position : Position
  deriving Inhabited

namespace Cursor

/-- A cursor at the beginning of a text. -/
def ofText (text : List Char) : Cursor := ⟨text, .start⟩

/-- Moves a cursor behind the next character. -/
def advance (cursor : Cursor) : Cursor :=
  match cursor.rest with
  | [] => cursor
  | letter :: rest => ⟨rest, cursor.position.after letter⟩

/-- Moves a cursor over a number of characters. -/
def skip : Nat → Cursor → Cursor
  | 0, cursor => cursor
  | count + 1, cursor => skip count cursor.advance

/-- Collects characters as long as they are accepted. -/
def spanFrom (accept : Char → Bool) : List Char → Position → List Char → List Char × Cursor
  | [], position, found => (found.reverse, ⟨[], position⟩)
  | letter :: rest, position, found =>
      if accept letter then spanFrom accept rest (position.after letter) (letter :: found)
      else (found.reverse, ⟨letter :: rest, position⟩)

/-- Splits off the longest run of accepted characters. -/
def span (accept : Char → Bool) (cursor : Cursor) : List Char × Cursor :=
  spanFrom accept cursor.rest cursor.position []

/-- Moves a cursor over the longest run of accepted characters. -/
def skipWhile (accept : Char → Bool) (cursor : Cursor) : Cursor :=
  (cursor.span accept).2

/-- Whether a cursor stands at a character that is accepted. -/
def nextIs (accept : Char → Bool) (cursor : Cursor) : Bool :=
  match cursor.rest with
  | [] => false
  | letter :: _ => accept letter

/-- Whether a cursor stands at a given text. -/
def startsWith (text : String) (cursor : Cursor) : Bool :=
  text.toList.isPrefixOf cursor.rest

end Cursor

end Lookalike.Source
