import Lookalike.Source.Cursor
import Lookalike.Text.Normal

/-!
# Tokens

A source text is a sequence of tokens: names, numbers, text literals, marks of fixed
spelling (keywords and operators), and the ends of lines and the beginnings and ends of
indented blocks.
-/

namespace Lookalike.Source

/-- A text literal as it is written, without its quotes. -/
structure TextLiteral where
  /-- Whether backslashes stand for themselves. -/
  isRaw : Bool
  /-- Whether the literal stands for bytes. -/
  isBytes : Bool
  /-- Whether braces enclose expressions. -/
  isFormatted : Bool
  body : List Char
  /-- Where the body begins. -/
  position : Position
  deriving Inhabited

/-- What a token is. -/
inductive Lexeme where
  /-- A keyword or an operator. -/
  | mark (spelling : String)
  | name (spelling : String)
  | number (isImaginary : Bool)
  | text (literal : TextLiteral)
  | lineEnd
  | blockStart
  | blockEnd
  deriving Inhabited

/-- A token and where it begins. -/
structure Token where
  lexeme : Lexeme
  position : Position
  deriving Inhabited

namespace Token

/-- Whether a token is a given keyword or operator. -/
def isMark (spelling : String) (token : Token) : Bool :=
  match token.lexeme with
  | .mark given => given == spelling
  | _ => false

/-- Whether a token is a name of a given spelling. -/
def isName (spelling : String) (token : Token) : Bool :=
  match token.lexeme with
  | .name given => given == spelling
  | _ => false

end Token

/-- The words that are no names. -/
def keywords : List String :=
  ["False", "None", "True", "and", "as", "assert", "async", "await", "break", "class",
    "continue", "def", "del", "elif", "else", "except", "finally", "for", "from", "global",
    "if", "import", "in", "is", "lambda", "nonlocal", "not", "or", "pass", "raise",
    "return", "try", "while", "with", "yield"]

/-- The operators; a longer one stands before its own beginnings. -/
def operators : List String :=
  ["**=", "//=", ">>=", "<<=", "...", "!=", "%=", "&=", "**", "*=", "+=", "-=", "->", "//",
    "/=", ":=", "<<", "<=", "==", ">=", ">>", "@=", "^=", "|=", "%", "&", "(", ")", "*", "+",
    ",", "-", ".", "/", ":", ";", "<", "=", ">", "@", "[", "]", "^", "\x7b", "|", "\x7d", "~"]

/-- The operators letter by letter. -/
def operatorLetters : List (List Char × String) :=
  operators.map fun operator => (operator.toList, operator)

/-- The name that a spelling stands for: spellings of one compatibility form are one
name. -/
def nameOf (spelling : String) : String :=
  String.ofList (compatibilityNormal spelling.toList)

end Lookalike.Source
