import Lookalike.Source.Numeral
import Lookalike.Source.Token
import Lookalike.Text.Identifier

/-!
# From a source text to its tokens

Lines are joined inside brackets and behind a backslash.  Everywhere else the blanks at
the beginning of a line tell how deep its block is.  Blanks are counted twice, with tabs
that reach to the next multiple of eight and with tabs of width one: a line whose place
depends on the width of a tab is refused.
-/

namespace Lookalike.Source

/-- The blanks at the beginning of a line, counted in both ways. -/
structure Indentation where
  wide : Nat
  narrow : Nat
  deriving DecidableEq, Inhabited

/-- The state between two tokens. -/
structure Scan where
  cursor : Cursor
  /-- The blocks that are open, innermost first, without the outermost one. -/
  blocks : List Indentation := []
  /-- The brackets that are open, innermost first. -/
  brackets : List Char := []
  /-- Whether the next token is the first of its line. -/
  atLineStart : Bool := true
  deriving Inhabited

/-- How many brackets can be open at once. -/
def maximumBrackets : Nat := 200

/-- How many blocks can be open inside the outermost one. -/
def maximumBlocks : Nat := 99

/-! ### Indentation -/

/-- Counts the blanks at the beginning of a line.  When a line is continued within its
blanks, what counts is the depth before the first backslash, unless that is zero. -/
def countBlanks : List Char → Position → Indentation → (fixed : Nat) →
    Option (Indentation × Cursor)
  | ' ' :: rest, position, ⟨wide, narrow⟩, fixed =>
      countBlanks rest (position.after ' ') ⟨wide + 1, narrow + 1⟩ fixed
  | '\t' :: rest, position, ⟨wide, narrow⟩, fixed =>
      countBlanks rest (position.after '\t') ⟨(wide / 8 + 1) * 8, narrow + 1⟩ fixed
  | '\x0c' :: rest, position, _, fixed =>
      countBlanks rest (position.after '\x0c') ⟨0, 0⟩ fixed
  | '\\' :: '\n' :: rest, position, ⟨wide, narrow⟩, fixed =>
      if rest.isEmpty then none
      else countBlanks rest ((position.after '\\').after '\n') ⟨wide, narrow⟩
        (if fixed = 0 then wide else fixed)
  | '\\' :: _, _, _, _ => none
  | rest, position, counted, fixed =>
      some (if fixed = 0 then counted else ⟨fixed, fixed⟩, ⟨rest, position⟩)

/-- Closes the blocks that are deeper than a line, which must then stand exactly in the
block that is left. -/
def closeBlocks (line : Indentation) : List Indentation → Nat →
    Option (List Indentation × Nat)
  | [], closed => if line = ⟨0, 0⟩ then some ([], closed) else none
  | block :: blocks, closed =>
      if line.wide < block.wide then closeBlocks line blocks (closed + 1)
      else if line = block then some (block :: blocks, closed)
      else none

/-- The blocks that are open in a line, and the tokens that open or close blocks. -/
def enterLine (line : Indentation) (position : Position) (blocks : List Indentation) :
    Option (List Indentation × List Token) :=
  let current := blocks.head?.getD ⟨0, 0⟩
  if current.wide < line.wide then
    if maximumBlocks ≤ blocks.length ∨ line.narrow ≤ current.narrow then none
    else some (line :: blocks, [⟨.blockStart, position⟩])
  else do
    let (blocks, closed) ← closeBlocks line blocks 0
    return (blocks, List.replicate closed ⟨.blockEnd, position⟩)

/-- Moves a cursor behind a comment, if it stands at one. -/
def skipComment (cursor : Cursor) : Cursor :=
  if cursor.nextIs (· = '#') then cursor.skipWhile (· ≠ '\n') else cursor

/-- Begins a line.  Lines without tokens neither open nor close blocks. -/
def beginLine (scan : Scan) : Option (Scan × List Token) := do
  let (line, cursor) ← countBlanks scan.cursor.rest scan.cursor.position ⟨0, 0⟩ 0
  let bare := (skipComment cursor)
  if bare.nextIs (· = '\n') then
    return ({ scan with cursor := bare.advance }, [])
  else if !scan.brackets.isEmpty then
    return ({ scan with cursor := cursor, atLineStart := false }, [])
  else
    let (blocks, tokens) ← enterLine line cursor.position scan.blocks
    return ({ scan with cursor := cursor, blocks := blocks, atLineStart := false }, tokens)

/-! ### Text literals -/

/-- The letters that may stand before a text literal. -/
def textMarks : List String := ["b", "u", "r", "f", "br", "rb", "fr", "rf"]

/-- Finds the end of a text literal.  A backslash keeps the next character from ending
it; a literal in single quotes ends in its line. -/
def closeText (quote : Char) (isTriple : Bool) : List Char → Position → List Char →
    Option (List Char × Cursor)
  | '\\' :: letter :: rest, position, found =>
      closeText quote isTriple rest ((position.after '\\').after letter)
        (letter :: '\\' :: found)
  | letter :: rest, position, found =>
      if letter = quote then
        if !isTriple then some (found.reverse, ⟨rest, position.after letter⟩)
        else if rest.take 2 = [quote, quote] then
          some (found.reverse, (Cursor.mk (letter :: rest) position).skip 3)
        else closeText quote isTriple rest (position.after letter) (letter :: found)
      else if letter = '\n' ∧ !isTriple then none
      else closeText quote isTriple rest (position.after letter) (letter :: found)
  | [], _, _ => none

/-- Reads a text literal at its first quote; `marks` are the letters before it. -/
def readText (marks : List Char) (quote : Char) (cursor : Cursor) :
    Option (TextLiteral × Cursor) := do
  let isTriple := cursor.rest.take 3 = [quote, quote, quote]
  let inside := cursor.skip (if isTriple then 3 else 1)
  let (body, behind) ← closeText quote isTriple inside.rest inside.position []
  let has (mark : Char) : Bool := marks.any (·.toLower = mark)
  return (
    { isRaw := has 'r', isBytes := has 'b', isFormatted := has 'f', body := body
      position := inside.position }, behind)

/-! ### Tokens -/

/-- Reads a name or a keyword, or a text literal with its marks. -/
def readWord (cursor : Cursor) : Option (Lexeme × Cursor) :=
  let (word, behind) := cursor.span isNamePart
  let spelling := String.ofList word
  match behind.rest with
  | '"' :: _ | '\'' :: _ =>
      if textMarks.contains (String.ofList (word.map Char.toLower)) then do
        let (literal, behind) ← readText word (behind.rest.headD '"') behind
        return (.text literal, behind)
      else plain spelling word behind
  | _ => plain spelling word behind
where
  plain (spelling : String) (word : List Char) (behind : Cursor) :
      Option (Lexeme × Cursor) :=
    if word.all (·.toNat < 128) then
      some (if keywords.contains spelling then .mark spelling else .name spelling, behind)
    else if isIdentifier word then some (.name spelling, behind)
    else none

/-- The bracket that a closing bracket belongs to. -/
def openingOf : Char → Option Char
  | ')' => some '('
  | ']' => some '['
  | '\x7d' => some '\x7b'
  | _ => none

/-- The brackets that are open behind an operator. -/
def trackBrackets (letter : Char) (brackets : List Char) : Option (List Char) :=
  if ['(', '[', '\x7b'].contains letter then
    if maximumBrackets ≤ brackets.length then none else some (letter :: brackets)
  else
    match openingOf letter with
    | none => some brackets
    | some opening =>
        match brackets with
        | [] => none
        | bracket :: brackets => if bracket = opening then some brackets else none

/-- Reads an operator and keeps account of brackets.  The spelling with an angle on
either side is no operator, nor are its two halves in a row. -/
def readOperator (scan : Scan) (cursor : Cursor) : Option (Token × Scan) := do
  let (letters, spelling) ← operatorLetters.find? fun operator => operator.1.isPrefixOf cursor.rest
  if cursor.startsWith "<>" then none
  else
    let brackets ← trackBrackets (letters.headD ' ') scan.brackets
    return (⟨.mark spelling, cursor.position⟩,
      { scan with cursor := cursor.skip letters.length, brackets := brackets })

/-- Whether a cursor stands at a number. -/
def atNumber (cursor : Cursor) : Bool :=
  match cursor.rest with
  | '.' :: letter :: _ => isDigit letter
  | letter :: _ => isDigit letter
  | [] => false

/-- Reads one token that is neither a blank nor the end of a line. -/
def readToken (scan : Scan) (cursor : Cursor) : Option (Token × Scan) :=
  let step (found : Lexeme × Cursor) : Token × Scan :=
    (⟨found.1, cursor.position⟩, { scan with cursor := found.2 })
  if atNumber cursor then
    (readNumber cursor).map fun found => step (.number found.1, found.2)
  else if cursor.nextIs isNameStart then (readWord cursor).map step
  else
    match cursor.rest with
    | '"' :: _ => (readText [] '"' cursor).map fun found => step (.text found.1, found.2)
    | '\'' :: _ => (readText [] '\'' cursor).map fun found => step (.text found.1, found.2)
    | _ => readOperator scan cursor

/-- Whether a character separates tokens within a line. -/
def isSpacing (letter : Char) : Bool := letter = ' ' || letter = '\t' || letter = '\x0c'

/-- What follows within a line. -/
inductive Step where
  | finished
  | more (tokens : List Token) (scan : Scan)

/-- Reads on within a line: blanks, a comment, the end of the line, or a token. -/
def continueLine (scan : Scan) : Option Step := do
  let cursor := skipComment (scan.cursor.skipWhile isSpacing)
  match cursor.rest with
  | [] => if scan.brackets.isEmpty then some .finished else none
  | '\n' :: _ =>
      let scan := { scan with cursor := cursor.advance, atLineStart := true }
      some (.more (if scan.brackets.isEmpty then [⟨.lineEnd, cursor.position⟩] else []) scan)
  | '\\' :: '\n' :: _ :: _ => some (.more [] { scan with cursor := cursor.skip 2 })
  | '\\' :: _ => none
  | _ =>
      let (token, scan) ← readToken scan cursor
      some (.more [token] scan)

/-- Reads all tokens of a text.  Every step moves on or ends the text, so that there are
no more steps than characters. -/
def readTokens : Nat → Scan → List Token → Option (List Token)
  | 0, _, _ => none
  | steps + 1, scan, found =>
      if scan.atLineStart ∧ !scan.cursor.rest.isEmpty then
        match beginLine scan with
        | none => none
        | some (scan, tokens) => readTokens steps scan (tokens.reverse ++ found)
      else
        match continueLine scan with
        | none => none
        | some .finished =>
            let ends := List.replicate scan.blocks.length ⟨.blockEnd, scan.cursor.position⟩
            some (found.reverse ++ ends)
        | some (.more tokens scan) => readTokens steps scan (tokens.reverse ++ found)

/-- The tokens of a text in which every line ends with a line feed; `none` if it has
none. -/
def tokensOf (cursor : Cursor) : Option (List Token) :=
  readTokens (2 * cursor.rest.length + 2) { cursor := cursor } []

/-- Ends every line with a single line feed, in front of the characters already done. -/
def endLinesFrom : List Char → List Char → List Char
  | [], done => ('\n' :: done).reverse
  | ['\n'], done => ('\n' :: done).reverse
  | ['\r'], done => ('\n' :: done).reverse
  | ['\r', '\n'], done => ('\n' :: '\n' :: done).reverse
  | '\r' :: '\n' :: rest, done => endLinesFrom rest ('\n' :: done)
  | '\r' :: rest, done => endLinesFrom rest ('\n' :: done)
  | letter :: rest, done => endLinesFrom rest (letter :: done)

/-- Ends every line with a single line feed, the last one too.  A text whose last line
ends with a carriage return and a line feed gets an empty line more. -/
def endLines (text : List Char) : List Char := endLinesFrom text []

end Lookalike.Source
