import Lookalike.Source.Pattern

/-!
# Statements

Simple statements stand in a line, with semicolons between them.  Compound statements
have blocks: either simple statements in the same line or an indented block of lines.
-/

namespace Lookalike.Source

open Reader

/-- The operators of assignments that also read their target. -/
def augmentedOperators : List String :=
  ["+=", "-=", "*=", "@=", "/=", "%=", "&=", "|=", "^=", "<<=", ">>=", "**=", "//="]

section

variable (inner : Inner)

/-! ### Simple statements -/

/-- Reads an annotation and perhaps a value, behind the colon that follows a target. -/
def typedAssignment (target : Tree) : Reader Tree := do
  let target ← require target.asSingleTarget?
  let annotation ← inner .expression
  if ← accept "=" then
    return .compound .typedAssignment [target, annotation, ← yieldedOrList inner]
  else return .compound .typedAssignment [target, annotation]

/-- Targets, reversed, and the value behind them, which may turn out to be one more
target. -/
structure AssignmentState where
  targets : List Tree
  value : Tree

/-- Reads the rest of an assignment behind its first target. -/
def assignment (first : Tree) : Reader Tree := do
  let state ← iterate (fun state : AssignmentState => do
    if ← accept "=" then
      let target ← require state.value.asTarget?
      return some ⟨target :: state.targets, ← yieldedOrList inner⟩
    else return none) ⟨[], first⟩
  return .compound .assignment (state.targets.reverse ++ [state.value])

/-- Reads a target in parentheses that something else than an annotation follows. -/
def unannotatedTarget : Reader Unit := do
  expect "("
  let target ← inner .primary
  expect ")"
  check target.asSingleTarget?.isSome
  check !(← nextIs ":")

/-- Reads an assignment, or an expression as a statement. -/
def expressionStatement : Reader Tree := do
  -- A target in parentheses is annotated as it is, or else the phrase that it begins is not.
  let isUnannotated ← ahead (unannotatedTarget inner)
  let value ← yieldedOrList inner
  if ← accept ":" then
    check !isUnannotated
    typedAssignment inner value
  else if ← nextIs "=" then assignment inner value
  else if ← next (fun token => augmentedOperators.any token.isMark) then
    let _ ← take
    let target ← require value.asSingleTarget?
    return .compound .augmentedAssignment [target, ← yieldedOrList inner]
  else return .compound .expression [value]

/-- Reads a deletion, behind its keyword. -/
def deletion : Reader Tree := do
  let targets ← items beginsExpression (inner .primary)
  check (Tree.areDeletable targets)
  return .compound .deletion targets

/-- Reads a statement that leaves a function, behind its keyword. -/
def returnStatement : Reader Tree := do
  if ← next beginsStarred then return .compound .statement [← expressionList inner]
  else return .compound .statement []

/-- Reads a statement that raises an exception, behind its keyword. -/
def raiseStatement : Reader Tree := do
  if ← next beginsExpression then
    let raised ← inner .expression
    if ← accept "from" then return .compound .statement [raised, ← inner .expression]
    else return .compound .statement [raised]
  else return .compound .statement []

/-- Reads an assertion, behind its keyword. -/
def assertion : Reader Tree := do
  let condition ← inner .expression
  if ← accept "," then return .compound .assertion [condition, ← inner .expression]
  else return .compound .assertion [condition]

/-- Reads the names of a declaration, behind its keyword. -/
def declaration : Reader Tree := do
  let names ← itemsAfter (fun _ => true) takeName (← takeName)
  return .declaration (names.map (·.1))

/-- Reads an alias, if there is one. -/
def optionalAlias : Reader (Option String) := do
  if ← accept "as" then return some (← takeName).1 else return none

/-- Reads the names behind the first one of a dotted name. -/
def dottedRest : Reader Unit :=
  iterate (fun _ => do
    if ← accept "." then
      let _ ← takeName
      return some ()
    else return none) ()

/-- Reads a module or one of its names, and its alias. -/
def importedName (isDotted : Bool) : Reader (Option String) := do
  let _ ← takeName
  if isDotted then dottedRest
  optionalAlias

/-- Reads an import of modules, behind its keyword. -/
def moduleImport (position : Position) : Reader Tree := do
  let aliases ← itemsAfter (fun _ => true) (importedName true) (← importedName true)
  return .importation (aliases.filterMap id) position

/-- Reads what is imported from a module. -/
def importedNames : Reader (List (Option String)) := do
  if ← accept "*" then return []
  else if ← accept "(" then
    let aliases ← items (fun token => !token.isMark ")") (importedName false)
    expect ")"
    return aliases
  else itemsAfter (fun _ => true) (importedName false) (← importedName false)

/-- Reads the dots before a relative module and tells whether there are any. -/
def leadingDots : Reader Bool :=
  iterate (fun _ => do
    if ← accept "." then return some true
    else if ← accept "..." then return some true
    else return none) false

/-- Reads an import from a module, behind its keyword. -/
def nameImport (position : Position) : Reader Tree := do
  let isRelative ← leadingDots
  if !isRelative || (← nextIsName) then
    let _ ← takeName
    dottedRest
  expect "import"
  let aliases ← importedNames
  return .importation (aliases.filterMap id) position

/-- Reads a simple statement. -/
def simpleStatement : Reader Tree := do
  let position ← place
  if ← accept "return" then returnStatement inner
  else if ← accept "import" then moduleImport position
  else if ← accept "from" then nameImport position
  else if ← accept "raise" then raiseStatement inner
  else if ← accept "pass" then return .compound .statement []
  else if ← accept "break" then return .compound .statement []
  else if ← accept "continue" then return .compound .statement []
  else if ← accept "del" then deletion inner
  else if ← accept "assert" then assertion inner
  else if ← accept "global" then declaration
  else if ← accept "nonlocal" then declaration
  else expressionStatement inner

/-- Reads the simple statements of a line. -/
def simpleLine : Reader (List Tree) := do
  let found ← iterate (fun found => do
    if (← nextIs ";") && !(← second (fun token => token.lexeme matches .lineEnd)) then
      let _ ← take
      return some ((← simpleStatement inner) :: found)
    else return none) [← simpleStatement inner]
  let _ ← accept ";"
  expectLineEnd
  return found.reverse

/-! ### Compound statements -/

variable (statements : Reader (List Tree))

/-- Reads a block behind its colon. -/
def block : Reader (List Tree) := do
  expect ":"
  if ← next (fun token => token.lexeme matches .lineEnd) then
    expectLineEnd
    expectBlockStart
    let found ← statements
    expectBlockEnd
    return found
  else simpleLine inner

/-- Reads a block that belongs to a keyword, if the keyword follows. -/
def optionalBlock (keyword : String) : Reader (List Tree) := do
  if ← accept keyword then block inner statements else return []

/-- A condition and the block that it guards. -/
structure Branch where
  condition : Tree
  body : List Tree

/-- A branch, and the statements that stand for all others. -/
def Branch.orElse (branch : Branch) (others : List Tree) : Tree :=
  .compound .statement (branch.condition :: branch.body ++ others)

/-- Reads a branch behind its keyword. -/
def branch : Reader Branch := do
  let condition ← namedExpression inner
  return ⟨condition, ← block inner statements⟩

/-- Reads branches, behind the keyword of the first one.  Each further branch is a
statement in the place of all others. -/
def branches : Reader Tree := do
  let first ← branch inner statements
  let others ← iterate (fun found => do
    if ← accept "elif" then return some ((← branch inner statements) :: found)
    else return none) []
  let last ← optionalBlock inner statements "else"
  if maximumChain < others.length then exhausted
  else return first.orElse (others.foldl (fun rest branch => [branch.orElse rest]) last)

/-- Reads a loop with a condition, behind its keyword. -/
def whileLoop : Reader Tree := do
  let first ← branch inner statements
  return first.orElse (← optionalBlock inner statements "else")

/-- Reads a loop over a sequence, behind its keyword. -/
def forLoop : Reader Tree := do
  let target ← targetList inner
  expect "in"
  let source ← expressionList inner
  let body ← block inner statements
  let last ← optionalBlock inner statements "else"
  return .compound .statement (target :: source :: body ++ last)

/-- Reads a resource that a block uses, and its name. -/
def withItem : Reader Tree := do
  let resource ← inner .expression
  if ← accept "as" then
    let target ← target inner
    check ((← nextIs ",") || (← nextIs ")") || (← nextIs ":"))
    return .compound .withItem [resource, target]
  else return .compound .withItem [resource]

/-- Reads resources in parentheses, up to the colon, which is not taken. -/
def enclosedWithItems : Reader (List Tree) := do
  expect "("
  let found ← items beginsExpression (withItem inner)
  expect ")"
  check (← nextIs ":")
  return found

/-- Reads resources without parentheses. -/
def plainWithItems : Reader (List Tree) := do
  itemsAfter (fun _ => true) (withItem inner) (← withItem inner)

/-- Reads a block with resources, behind its keyword. -/
def withBlock : Reader Tree := do
  let resources ← either (enclosedWithItems inner) (plainWithItems inner)
  let body ← block inner statements
  return .compound .statement (resources ++ body)

/-- Reads an exception handler. -/
def handler (isGroup : Bool) : Reader Tree := do
  let position := (← take).position
  check ((← accept "*") = isGroup)
  if !isGroup && (← nextIs ":") then
    return .handler none position (← block inner statements)
  else
    let caught ← inner .expression
    let alias? ← optionalAlias
    return .handler alias? position (caught :: (← block inner statements))

/-- Reads a block with exception handlers, behind its keyword.  Handlers of exceptions
and of groups of exceptions are not mixed. -/
def tryBlock : Reader Tree := do
  let body ← block inner statements
  let isGroup ← secondIs "*"
  let handlers ← iterate (fun found => do
    if ← nextIs "except" then return some ((← handler inner statements isGroup) :: found)
    else return none) []
  let last ←
    if handlers.isEmpty then pure [] else optionalBlock inner statements "else"
  check (!handlers.isEmpty || (← nextIs "finally"))
  let finish ← optionalBlock inner statements "finally"
  return .compound .statement (body ++ handlers.reverse ++ last ++ finish)

/-- Reads a function, behind its keyword. -/
def functionDefinition (position : Position) (decorators : List Tree) : Reader Tree := do
  let (name, _) ← takeName
  expect "("
  let annotation : AnnotationReader :=
    { single := inner .expression, starred := starredOrPlain inner }
  let list ← readParameters (inner .expression) (some annotation) ")"
  expect ")"
  let returned ← if ← accept "->" then pure [← inner .expression] else pure []
  let body ← block inner statements
  return .function name position decorators list.parameters list.allDefaults
    (list.annotations.reverse ++ returned) body

/-- Reads a class, behind its keyword. -/
def classDefinition (position : Position) (decorators : List Tree) : Reader Tree := do
  let (name, _) ← takeName
  let list ← if ← accept "(" then arguments inner else pure {}
  let body ← block inner statements
  return .classDefinition name position decorators list.values.reverse
    list.keywordValues.reverse body

/-- Reads decorators. -/
def decorators : Reader (List Tree) := do
  let found ← iterate (fun found => do
    if ← accept "@" then
      let value ← namedExpression inner
      expectLineEnd
      return some (value :: found)
    else return none) []
  return found.reverse

/-- Reads a definition with its decorators, if it has any. -/
def definition : Reader Tree := do
  let decorators ← decorators inner
  let position ← place
  if ← accept "class" then classDefinition inner statements position decorators
  else
    let _ ← accept "async"
    expect "def"
    functionDefinition inner statements position decorators

/-- Reads a case. -/
def case (pattern : Reader Tree) : Reader Tree := do
  expectWord "case"
  let matched ← openSequence pattern
  let guard ← if ← accept "if" then pure [← namedExpression inner] else pure []
  let body ← block inner statements
  return .compound .case (matched :: guard ++ body)

/-- Reads the cases of a value. -/
def matchBlock (pattern : Reader Tree) : Reader Tree := do
  expectWord "match"
  let subject ← itemOrTuple beginsStarred (starredOrNamed inner)
  check (!isStarred subject)
  expect ":"
  expectLineEnd
  expectBlockStart
  let cases ← iterate (fun found => do
    if ← next (Token.isName "case") then
      return some ((← case inner statements pattern) :: found)
    else return none) [← case inner statements pattern]
  expectBlockEnd
  return .compound .statement (subject :: cases.reverse)

/-- Reads a statement that begins with the word for what runs by turns. -/
def asyncStatement : Reader Tree := do
  if ← secondIs "def" then definition inner statements
  else
    let _ ← take
    if ← accept "with" then withBlock inner statements
    else
      expect "for"
      forLoop inner statements

/-- Reads a compound statement or a line of simple ones. -/
def statement (pattern : Reader Tree) : Reader (List Tree) := do
  if (← nextIs "def") || (← nextIs "class") || (← nextIs "@") then
    return [← definition inner statements]
  else if ← nextIs "async" then return [← asyncStatement inner statements]
  else if ← accept "if" then return [← branches inner statements]
  else if ← accept "with" then return [← withBlock inner statements]
  else if ← accept "for" then return [← forLoop inner statements]
  else if ← accept "try" then return [← tryBlock inner statements]
  else if ← accept "while" then return [← whileLoop inner statements]
  else if ← next (Token.isName "match") then
    either (do return [← matchBlock inner statements pattern]) (simpleLine inner)
  else simpleLine inner

end

/-- Reads statements with blocks inside of them down to a depth. -/
def statementsWithin (inner : Inner) (pattern : Reader Tree) : (depth : Nat) →
    Reader (List Tree)
  | 0 => exhausted
  | depth + 1 => do
      let read := statement inner (statementsWithin inner pattern depth) pattern
      let found ← iterate (fun found => do
        if ← next (fun token => !(token.lexeme matches .blockEnd)) then
          return some ((← read).reverse ++ found)
        else return none) []
      check !found.isEmpty
      return found.reverse

/-- Reads all statements of a source text. -/
def readSource (text : List Char) : Except Fault (List Tree) := do
  let letters := endLines text
  let some tokens := tokensOf (Cursor.ofText letters) | throw .malformed
  if tokens.isEmpty then return []
  else
    let depth := letters.length + 1
    let inner := phrase depth
    let (trees, rest) ←
      statementsWithin inner (patternWithin inner depth) depth (.ofTokens tokens)
    if rest.tokens.isEmpty then return trees else throw .malformed

end Lookalike.Source
