import Lookalike.Source.Expression

/-!
# Patterns

A pattern in a case is a literal, a dotted name, a name that is bound, a sequence, a
mapping or a class with patterns inside, or alternatives of these.  A pattern binds its
own name after the names inside of it.
-/

namespace Lookalike.Source

open Reader

/-- The marks that begin a pattern. -/
def patternMarks : List String := ["(", "[", "\x7b", "-", "None", "True", "False"]

/-- Whether a token begins a pattern. -/
def beginsPattern (token : Token) : Bool :=
  match token.lexeme with
  | .name _ | .number _ | .text _ => true
  | .mark spelling => patternMarks.contains spelling
  | _ => false

/-- Whether a token begins a pattern or a star before a name. -/
def beginsStarredPattern (token : Token) : Bool :=
  beginsPattern token || token.isMark "*"

/-- The name that stands for anything and binds nothing. -/
def wildcard : String := "_"

/-- Reads a number and tells whether it is imaginary. -/
def numberToken : Reader Bool := do
  match (← take).lexeme with
  | .number isImaginary => return isImaginary
  | _ => malformed

/-- Reads a number, perhaps with a sign, and tells whether it is imaginary. -/
def signedNumber : Reader (Tree × Bool) := do
  if ← accept "-" then
    let isImaginary ← numberToken
    return (.compound .unary [.constant], isImaginary)
  else return (.constant, ← numberToken)

/-- Reads the imaginary part of a sum behind its sign.  The other part is real. -/
def imaginaryPart (first : Tree × Bool) : Reader Tree := do
  check !first.2
  check (← numberToken)
  return .compound .binary [first.1, .constant]

/-- Reads a number, perhaps with a sign, or the sum of a real and an imaginary one. -/
def numberPattern : Reader Tree := do
  let first ← signedNumber
  if ← accept "+" then imaginaryPart first
  else if ← accept "-" then imaginaryPart first
  else return first.1

/-- Reads a name that a pattern binds. -/
def captureTarget : Reader String := do
  check !(← next (Token.isName wildcard))
  let (name, _) ← takeName
  check !((← nextIs ".") || (← nextIs "(") || (← nextIs "="))
  return name

/-- Reads the names behind the first one of a dotted name, each a member of what stands
before it. -/
def members (value : Tree) : Reader Tree :=
  iterate (fun value => do
    if ← accept "." then
      let _ ← takeName
      return some (.compound .member [value])
    else return none) value

section

variable (inner : Inner)

/-- Reads a number or a text as the value that a pattern compares with. -/
def literalValue : Reader Tree := do
  if ← next (fun token => token.lexeme matches .text _) then literals inner else numberPattern

/-- Takes one of the three constants that are spelled as words, and tells whether it did. -/
def acceptSingleton : Reader Bool := do
  if ← accept "None" then return true
  else if ← accept "True" then return true
  else accept "False"

/-- Reads the key of a mapping: a literal or a dotted name. -/
def patternKey : Reader Tree := do
  if ← nextIsName then
    let (name, position) ← takeName
    check (← nextIs ".")
    members (.identifier name position false)
  else if ← acceptSingleton then return .constant
  else literalValue inner

variable (pattern : Reader Tree)

/-- Reads a star and the name it binds, if any. -/
def starredPattern : Reader Tree := do
  let position := (← take).position
  if ← next (Token.isName wildcard) then
    let _ ← take
    return .capture none position []
  else return .capture (some (← captureTarget)) position []

/-- Reads an element of a sequence. -/
def sequenceItem : Reader Tree := do
  if ← nextIs "*" then starredPattern else pattern

/-- Reads a pattern, or a sequence without brackets. -/
def openSequence : Reader Tree := do
  let isStarred ← nextIs "*"
  let first ← sequenceItem pattern
  if ← nextIs "," then
    let found ← itemsAfter beginsStarredPattern (sequenceItem pattern) first
    let _ ← accept ","
    return .compound .sequencePattern found
  else
    check !isStarred
    return first

/-- Reads on behind an opening parenthesis. -/
def parenthesizedPattern : Reader Tree := do
  if ← accept ")" then return .compound .sequencePattern []
  else
    let found ← openSequence pattern
    expect ")"
    return found

/-- Reads on behind an opening square bracket. -/
def listPattern : Reader Tree := do
  if ← accept "]" then return .compound .sequencePattern []
  else
    let found ← items beginsStarredPattern (sequenceItem pattern)
    expect "]"
    return .compound .sequencePattern found

/-- A mapping that is being read; both lists are reversed. -/
structure MappingPattern where
  keys : List Tree := []
  values : List Tree := []
  /-- The name for all other entries. -/
  rest? : Option String := none

/-- Reads an entry of a mapping.  Nothing follows the name for all other entries. -/
def mappingEntry (mapping : MappingPattern) : Reader MappingPattern := do
  check mapping.rest?.isNone
  if ← accept "**" then return { mapping with rest? := some (← captureTarget) }
  else
    let key ← patternKey inner
    expect ":"
    let value ← pattern
    return { mapping with keys := key :: mapping.keys, values := value :: mapping.values }

/-- Reads on behind an opening brace, whose place is given. -/
def mappingPattern (position : Position) : Reader Tree := do
  if ← accept "\x7d" then return .capture none position []
  else
    let mapping ← iterate (fun mapping => do
      if (← nextIs ",") && !(← secondIs "\x7d") then
        let _ ← take
        return some (← mappingEntry inner pattern mapping)
      else return none) (← mappingEntry inner pattern {})
    let _ ← accept ","
    expect "\x7d"
    return .capture mapping.rest? position (mapping.keys.reverse ++ mapping.values.reverse)

/-- Patterns in a class that are being read: whether one has a keyword, and all of them,
reversed. -/
structure ClassPattern where
  hasKeyword : Bool := false
  found : List Tree := []

/-- Reads a pattern in a class.  Behind a keyword stand only keywords, and the wildcard is no
keyword behind a pattern without one. -/
def classEntry (arguments : ClassPattern) : Reader ClassPattern := do
  if (← nextIsName) && (← secondIs "=") then
    check (arguments.hasKeyword || arguments.found.isEmpty || !(← next (Token.isName wildcard)))
    let _ ← takeName
    expect "="
    return { hasKeyword := true, found := (← pattern) :: arguments.found }
  else
    check !arguments.hasKeyword
    return { arguments with found := (← pattern) :: arguments.found }

/-- Reads the patterns in a class behind the opening parenthesis. -/
def classPattern (named : Tree) : Reader Tree := do
  if ← accept ")" then return .compound .patternArguments [named]
  else
    let arguments ← iterate (fun arguments => do
      if (← nextIs ",") && !(← secondIs ")") then
        let _ ← take
        return some (← classEntry pattern arguments)
      else return none) (← classEntry pattern {})
    let _ ← accept ","
    expect ")"
    return .compound .patternArguments (named :: arguments.found.reverse)

/-- Reads a pattern that begins with a name. -/
def namePattern : Reader Tree := do
  let isWildcard ← next (Token.isName wildcard)
  let (name, position) ← takeName
  if isWildcard then return .capture none position []
  else
    let isDotted ← nextIs "."
    let named ← members (.identifier name position false)
    if ← accept "(" then classPattern pattern named
    else
      check !(← nextIs "=")
      if isDotted then return .compound .literalPattern [named]
      else return .capture (some name) position []

/-- Reads a pattern that is no alternative. -/
def closedPattern : Reader Tree := do
  if ← nextIsName then namePattern pattern
  else if ← accept "(" then parenthesizedPattern pattern
  else if ← accept "[" then listPattern pattern
  else if ← nextIs "\x7b" then
    let position := (← take).position
    mappingPattern inner pattern position
  else if ← acceptSingleton then return .compound .literalPattern []
  else return .compound .literalPattern [← literalValue inner]

/-- Reads a pattern: alternatives, perhaps with a name for what they match. -/
def patternWith : Reader Tree := do
  let position ← place
  let found ← iterate (fun found => do
    if ← accept "|" then return some ((← closedPattern inner pattern) :: found)
    else return none) [← closedPattern inner pattern]
  let matched : Tree :=
    match found with
    | [only] => only
    | _ => .compound .alternatives found.reverse
  if ← accept "as" then return .capture (some (← captureTarget)) position [matched]
  else return matched

end

/-- Reads a pattern with patterns inside of it down to a depth. -/
def patternWithin (inner : Inner) : (depth : Nat) → Reader Tree
  | 0 => exhausted
  | depth + 1 => patternWith inner (patternWithin inner depth)

end Lookalike.Source
