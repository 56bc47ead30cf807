import Lookalike.Source.Escape
import Lookalike.Source.Lexer
import Lookalike.Source.Stream

/-!
# Text literals with expressions in them

In a template, braces enclose fields: an expression, perhaps a conversion, perhaps a
format, which is a template again.  Outside of formats a doubled brace stands for
itself.  Fields in the format of a field cannot have fields in their formats.
-/

namespace Lookalike.Source

/-- How the text before a field ends. -/
inductive TextEnd where
  /-- At the end of the template. -/
  | templateEnd
  /-- With a doubled brace, which belongs to the text. -/
  | doubled
  /-- In front of an opening brace. -/
  | fieldStart
  /-- In front of the closing brace of the field that this is the format of. -/
  | formatEnd
  deriving DecidableEq

/-- Where the plain text from a cursor on ends.  A backslash takes the next character
with it, unless that is a brace, and the braces around the name of a character. -/
def plainText (isRaw isFormat inName : Bool) : List Char → Position → List Char →
    Option (List Char × TextEnd × Cursor)
  | [], position, found =>
      if inName then none else some (found.reverse, .templateEnd, ⟨[], position⟩)
  | '\\' :: letter :: rest, position, found =>
      let behind := position.after '\\'
      if inName ∨ isRaw ∨ letter = '\x7b' ∨ letter = '\x7d' then
        plainText isRaw isFormat inName (letter :: rest) behind ('\\' :: found)
      else if letter = 'N' then
        if rest.head? = some '\x7b' then
          plainText isRaw isFormat true rest (behind.after letter) (letter :: '\\' :: found)
        else none
      else
        plainText isRaw isFormat false rest (behind.after letter) (letter :: '\\' :: found)
  | letter :: rest, position, found =>
      if inName then
        plainText isRaw isFormat (letter ≠ '\x7d') rest (position.after letter) (letter :: found)
      else if letter = '\x7b' ∨ letter = '\x7d' then
        if !isFormat ∧ rest.head? = some letter then
          some ((letter :: found).reverse, .doubled,
            ⟨rest.drop 1, (position.after letter).after letter⟩)
        else if letter = '\x7b' then
          some (found.reverse, .fieldStart, ⟨letter :: rest, position⟩)
        else if isFormat then some (found.reverse, .formatEnd, ⟨letter :: rest, position⟩)
        else none
      else plainText isRaw isFormat false rest (position.after letter) (letter :: found)

/-- The quotes around a text within an expression. -/
structure OpenQuote where
  quote : Char
  isTriple : Bool

/-- Whether a comparison begins here that is written with two characters. -/
def beginsComparison (letter : Char) (rest : List Char) : Bool :=
  ['!', '=', '<', '>'].contains letter && rest.head? = some '='

/-- Finds the end of an expression in a field.  Brackets and quotes protect what stands
in them.  The first `pass` characters are taken as they are. -/
def fieldText : List Char → Position → (pass : Nat) → Option OpenQuote →
    (brackets : List Char) → List Char → Option (List Char × Cursor)
  | [], _, _, _, _, _ => none
  | letter :: rest, position, pass + 1, quote, brackets, found =>
      fieldText rest (position.after letter) pass quote brackets (letter :: found)
  | letter :: rest, position, 0, some open', brackets, found =>
      let goOn (pass : Nat) (quote : Option OpenQuote) :=
        fieldText rest (position.after letter) pass quote brackets (letter :: found)
      if letter = '\\' then none
      else if letter = open'.quote then
        if !open'.isTriple then goOn 0 none
        else if rest.take 2 = [letter, letter] then goOn 2 none
        else goOn 0 (some open')
      else goOn 0 (some open')
  | letter :: rest, position, 0, none, brackets, found =>
      let goOn (pass : Nat) (quote : Option OpenQuote) (brackets : List Char) :=
        fieldText rest (position.after letter) pass quote brackets (letter :: found)
      if letter = '\\' ∨ letter = '#' then none
      else if letter = '\'' ∨ letter = '"' then
        if rest.take 2 = [letter, letter] then goOn 2 (some ⟨letter, true⟩) brackets
        else goOn 0 (some ⟨letter, false⟩) brackets
      else if brackets.isEmpty ∧ beginsComparison letter rest then goOn 1 none brackets
      else if brackets.isEmpty ∧ ['!', ':', '\x7d', '='].contains letter then
        some (found.reverse, ⟨letter :: rest, position⟩)
      else
        match trackBrackets letter brackets with
        | some brackets => goOn 0 none brackets
        | none => none

/-- Whether a character may stand between an expression and what follows its equals
sign. -/
def isFieldBlank (letter : Char) : Bool :=
  [' ', '\t', '\n', '\x0b', '\x0c', '\r'].contains letter

/-- Moves a cursor behind the conversion of a field, if there is one. -/
def skipConversion (cursor : Cursor) : Option Cursor :=
  if cursor.nextIs (· = '!') then
    let mark := cursor.advance
    if mark.nextIs (['s', 'r', 'a'].contains ·) then some mark.advance else none
  else some cursor

/-- Reads an expression that is written in a field, at the place of its opening
brace.  It is read as if the brace were a parenthesis. -/
def readFieldExpression (expression : Reader Tree) (text : List Char)
    (position : Position) : Except Fault Tree :=
  if text.all ([' ', '\t', '\n', '\x0c'].contains ·) then .error .malformed
  else
    match tokensOf ⟨'(' :: text ++ [')', '\n'], position⟩ with
    | none => .error .malformed
    | some tokens =>
        match expression (.ofTokens tokens) with
        | .error fault => .error fault
        | .ok (tree, _) => .ok tree

/-- Reads formats, or templates as formats are. -/
abbrev FormatReader := Cursor → Except Fault (List Tree × Cursor)

/-- Reads a field at its opening brace. -/
def readField (expression : Reader Tree) (format : FormatReader)
    (cursor : Cursor) : Except Fault (Tree × Cursor) := do
  let inside := cursor.advance
  let some (text, behind) := fieldText inside.rest inside.position 0 none [] []
    | throw .malformed
  let value ← readFieldExpression expression text cursor.position
  let behind :=
    if behind.nextIs (· = '=') then behind.advance.skipWhile isFieldBlank else behind
  let some behind := skipConversion behind | throw .malformed
  let (parts, behind) ←
    if behind.nextIs (· = ':') then do
      let (parts, behind) ← format behind.advance
      pure ([.compound .template parts], behind)
    else pure ([], behind)
  if behind.nextIs (· = '\x7d') then return (.compound .field (value :: parts), behind.advance)
  else throw .malformed

/-- Reads plain text and fields in turn.  Each step takes a character, so that there are
no more of them than characters. -/
def readPieces (isRaw isFormat : Bool) (field : Cursor → Except Fault (Tree × Cursor)) :
    (steps : Nat) → List Tree → FormatReader
  | 0, _, _ => .error .malformed
  | steps + 1, found, cursor =>
      match plainText isRaw isFormat false cursor.rest cursor.position [] with
      | none => .error .malformed
      | some (text, textEnd, behind) =>
          if !isRaw && !areEscapesValid false text then .error .malformed
          else
            match textEnd with
            | .doubled => readPieces isRaw isFormat field steps found behind
            | .fieldStart =>
                match field behind with
                | .error fault => .error fault
                | .ok (tree, behind) =>
                    readPieces isRaw isFormat field steps (tree :: found) behind
            | .templateEnd =>
                if isFormat then .error .malformed else .ok (found.reverse, behind)
            | .formatEnd => .ok (found.reverse, behind)

/-- Reads the fields of a template. -/
def readTemplate (expression : Reader Tree) (literal : TextLiteral) :
    Except Fault (List Tree) := do
  let steps := literal.body.length + 1
  let innermost : FormatReader :=
    readPieces literal.isRaw true (fun _ => .error .malformed) steps []
  let format : FormatReader :=
    readPieces literal.isRaw true (readField expression innermost) steps []
  let (fields, _) ←
    readPieces literal.isRaw false (readField expression format) steps []
      ⟨literal.body, literal.position⟩
  return fields

/-- Whether a literal without fields is well-formed. -/
def isPlainLiteral (literal : TextLiteral) : Bool :=
  (!literal.isBytes || literal.body.all (·.toNat < 128)) &&
    (literal.isRaw || areEscapesValid literal.isBytes literal.body)

/-- Reads literals that stand side by side and form one text. -/
def readLiterals (expression : Reader Tree) (literals : List TextLiteral) :
    Except Fault Tree := do
  if literals.any (·.isBytes) && !literals.all (·.isBytes) then throw .malformed
  let fields ← literals.mapM fun literal =>
    if literal.isFormatted then readTemplate expression literal
    else if isPlainLiteral literal then pure []
    else throw .malformed
  if literals.any (·.isFormatted) then return .compound .template fields.flatten
  else return .constant

end Lookalike.Source
