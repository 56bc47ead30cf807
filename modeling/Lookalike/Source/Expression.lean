import Lookalike.Source.Parameters
import Lookalike.Source.Template

/-!
# Expressions

Expressions are read from the loosest operators to the tightest ones.  Chains of
operators are read by loops; only phrases in brackets, in default values, in templates
and on the right of a power are read by calling the reader of another phrase, which is
given to every function here as `inner`.  `phrase` ties the knot for any depth.

Where a target is expected, an expression is read and then taken as a target if it has
the form of one: every target is written like an expression.
-/

namespace Lookalike.Source

open Reader

/-- The kinds of phrases that other phrases contain. -/
inductive Phrase where
  | expression
  | disjunction
  | bitwise
  | factor
  | primary
  deriving DecidableEq

/-- The readers of the phrases inside a phrase. -/
abbrev Inner := Phrase → Reader Tree

/-- How many operators can be applied to each other without brackets. -/
def maximumChain : Nat := 5967

/-! ### Which tokens begin a phrase -/

/-- The marks that begin an expression. -/
def expressionMarks : List String :=
  ["(", "[", "\x7b", "-", "+", "~", "not", "lambda", "await", "...", "None", "True", "False"]

/-- Whether a token begins an expression. -/
def beginsExpression (token : Token) : Bool :=
  match token.lexeme with
  | .name _ | .number _ | .text _ => true
  | .mark spelling => expressionMarks.contains spelling
  | _ => false

/-- Whether a token begins an expression or a star before one. -/
def beginsStarred (token : Token) : Bool :=
  beginsExpression token || token.isMark "*"

/-- Whether a token begins a part of a subscript. -/
def beginsSlice (token : Token) : Bool :=
  beginsStarred token || token.isMark ":"

/-- Whether a name follows that is bound within an expression. -/
def nextBindsName : Reader Bool := do
  return (← nextIsName) && (← secondIs ":=")

/-- Whether a token begins a clause of a comprehension. -/
def beginsClause (token : Token) : Bool :=
  token.isMark "for" || token.isMark "async"

/-- Whether a tree is an expression behind a star. -/
def isStarred : Tree → Bool
  | .compound .starred _ => true
  | _ => false

section

variable (inner : Inner)

/-! ### Expressions in lists -/

/-- Reads an expression that may bind a name. -/
def namedExpression : Reader Tree := do
  if ← nextBindsName then
    let (name, position) ← takeName
    expect ":="
    return .compound .namedExpression [.identifier name position true, ← inner .expression]
  else inner .expression

/-- Reads an expression that may bind a name, or one behind a star. -/
def starredOrNamed : Reader Tree := do
  if ← accept "*" then return .compound .starred [← inner .bitwise]
  else namedExpression inner

/-- Reads an expression, or one behind a star. -/
def starredOrPlain : Reader Tree := do
  if ← accept "*" then return .compound .starred [← inner .bitwise]
  else inner .expression

/-- Reads an expression, or a tuple without brackets. -/
def expressionList : Reader Tree := itemOrTuple beginsStarred (starredOrPlain inner)

/-- Reads what is yielded. -/
def yielded : Reader Tree := do
  expect "yield"
  if ← accept "from" then return .compound .yielded [← inner .expression]
  else if ← next beginsStarred then return .compound .yielded [← expressionList inner]
  else return .compound .yielded []

/-- Reads a value that may be yielded. -/
def yieldedOrList : Reader Tree := do
  if ← nextIs "yield" then yielded inner else expressionList inner

/-! ### Targets and comprehensions -/

/-- Reads one target. -/
def target : Reader Tree := do
  if ← accept "*" then
    return .compound .starred [← require (← inner .primary).asTarget?]
  else require (← inner .primary).asTarget?

/-- Reads a target, or several that unpack a value. -/
def targetList : Reader Tree := itemOrTuple beginsStarred (target inner)

/-- Reads a clause of a comprehension. -/
def clause : Reader Tree := do
  let _ ← accept "async"
  expect "for"
  let target ← targetList inner
  expect "in"
  let source ← inner .disjunction
  let conditions ← iterate (fun found => do
    if ← accept "if" then return some ((← inner .disjunction) :: found) else return none) []
  return .compound .clause (target :: source :: conditions.reverse)

/-- Reads the clauses of a comprehension and the bracket that closes it; its elements
are read already. -/
def comprehension (elements : List Tree) (closing : String) : Reader Tree := do
  let clauses ← iterate (fun found => do
    if ← next beginsClause then return some ((← clause inner) :: found) else return none) []
  expect closing
  return .compound .comprehension (elements ++ clauses.reverse)

/-! ### Brackets -/

/-- Reads on behind an opening parenthesis. -/
def parenthesized : Reader Tree := do
  if ← accept ")" then return .compound .tuple []
  else if ← nextIs "yield" then
    let value ← yielded inner
    expect ")"
    return value
  else
    let first ← starredOrNamed inner
    if ← next beginsClause then
      check (!isStarred first)
      comprehension inner [first] ")"
    else
      let value ← tupleAfter beginsStarred (starredOrNamed inner) first
      expect ")"
      check (!isStarred value)
      return value

/-- Reads on behind an opening square bracket. -/
def listDisplay : Reader Tree := do
  if ← accept "]" then return .compound .list []
  else
    let first ← starredOrNamed inner
    if ← next beginsClause then
      check (!isStarred first)
      comprehension inner [first] "]"
    else
      let found ← itemsAfter beginsStarred (starredOrNamed inner) first
      let _ ← accept ","
      expect "]"
      return .compound .list found

/-- An entry of a dictionary: a key, unless all entries of a mapping are taken over, and
a value. -/
structure DictionaryEntry where
  key? : Option Tree
  value : Tree

/-- All keys of a dictionary, then all values. -/
def dictionaryOf (entries : List DictionaryEntry) : Tree :=
  .compound .dictionary (entries.filterMap (·.key?) ++ entries.map (·.value))

/-- Reads an entry of a dictionary. -/
def dictionaryEntry : Reader DictionaryEntry := do
  if ← accept "**" then return ⟨none, ← inner .bitwise⟩
  else
    let key ← inner .expression
    expect ":"
    return ⟨some key, ← inner .expression⟩

/-- Whether a token begins an entry of a dictionary. -/
def beginsEntry (token : Token) : Bool := beginsExpression token || token.isMark "**"

/-- Reads the rest of a dictionary behind its first entry. -/
def dictionaryAfter (first : DictionaryEntry) : Reader Tree := do
  let entries ← itemsAfter beginsEntry (dictionaryEntry inner) first
  let _ ← accept ","
  expect "\x7d"
  return dictionaryOf entries

/-- Reads the rest of a set behind its first element. -/
def setAfter (first : Tree) : Reader Tree := do
  if ← next beginsClause then
    check (!isStarred first)
    comprehension inner [first] "\x7d"
  else
    let found ← itemsAfter beginsStarred (starredOrNamed inner) first
    let _ ← accept ","
    expect "\x7d"
    return .compound .set found

/-- Reads on behind an opening brace. -/
def setOrDictionary : Reader Tree := do
  if ← accept "\x7d" then return dictionaryOf []
  else if ← nextIs "**" then dictionaryAfter inner (← dictionaryEntry inner)
  else if (← nextIs "*") || (← nextBindsName) then setAfter inner (← starredOrNamed inner)
  else
    let first ← inner .expression
    if ← accept ":" then
      let value ← inner .expression
      if ← next beginsClause then comprehension inner [first, value] "\x7d"
      else dictionaryAfter inner ⟨some first, value⟩
    else setAfter inner first

/-! ### Subscripts and arguments -/

/-- Reads an expression where one begins. -/
def optionalExpression : Reader (List Tree) := do
  if ← next beginsExpression then return [← inner .expression] else return []

/-- Reads a part of a subscript. -/
def slicePart : Reader Tree := do
  if ← accept "*" then return .compound .starred [← inner .expression]
  else if ← nextBindsName then namedExpression inner
  else
    let lower ← optionalExpression inner
    if ← accept ":" then
      let upper ← optionalExpression inner
      let stride ← if ← accept ":" then optionalExpression inner else pure []
      return .compound .slice (lower ++ upper ++ stride)
    else require lower.head?

/-- Reads on behind the opening bracket of a subscript. -/
def subscriptOf (value : Tree) : Reader Tree := do
  let index ← itemOrTuple beginsSlice (slicePart inner)
  expect "]"
  let index := if isStarred index then .compound .tuple [index] else index
  return .compound .subscript [value, index]

/-- Which arguments may still follow. -/
inductive ArgumentStage where
  | positions
  | keywords
  | mappings
  deriving DecidableEq

/-- Arguments that are being read; both lists are reversed. -/
structure ArgumentList where
  stage : ArgumentStage := .positions
  values : List Tree := []
  keywordValues : List Tree := []

/-- Reads one argument.  Behind a keyword stand no more plain values, behind a mapping
no more starred ones either. -/
def argument (list : ArgumentList) : Reader ArgumentList := do
  if ← accept "*" then
    check (list.stage ≠ .mappings)
    let value ← inner .expression
    return { list with values := .compound .starred [value] :: list.values }
  else if ← accept "**" then
    let value ← inner .expression
    return { list with stage := .mappings, keywordValues := value :: list.keywordValues }
  else if (← nextIsName) && (← secondIs "=") then
    let _ ← takeName
    expect "="
    let value ← inner .expression
    let stage := if list.stage = .mappings then .mappings else .keywords
    return { list with stage := stage, keywordValues := value :: list.keywordValues }
  else
    check (list.stage = .positions)
    let value ← namedExpression inner
    return { list with values := value :: list.values }

/-- Reads the arguments that follow the first ones, and the closing parenthesis. -/
def argumentsAfter (first : ArgumentList) : Reader ArgumentList := do
  let list ← iterate (fun list => do
    if (← nextIs ",") && !(← secondIs ")") then
      let _ ← take
      return some (← argument inner list)
    else return none) first
  let _ ← accept ","
  expect ")"
  return list

/-- Reads arguments behind their opening parenthesis. -/
def arguments : Reader ArgumentList := do
  if ← accept ")" then return {}
  else argumentsAfter inner (← argument inner {})

/-- Reads the arguments of a call.  A comprehension can be the only argument without
parentheses of its own. -/
def callArguments : Reader ArgumentList := do
  if ← accept ")" then return {}
  else
    let first ← argument inner {}
    match first.values with
    | [value] =>
        if !isStarred value && (← next beginsClause) then
          return { values := [← comprehension inner [value] ")"] }
        else argumentsAfter inner first
    | _ => argumentsAfter inner first

/-- Reads a call behind its opening parenthesis. -/
def callOf (callee : Tree) : Reader Tree := do
  let list ← callArguments inner
  return .compound .call
    (callee :: list.values.reverse ++
      list.keywordValues.reverse.map fun value => .compound .keywordArgument [value])

/-! ### Atoms and what follows them -/

/-- Reads text literals that stand side by side. -/
def literals : Reader Tree := do
  let found ← iterate (fun found => do
    if ← next (fun token => token.lexeme matches .text _) then
      match (← take).lexeme with
      | .text literal => return some (literal :: found)
      | _ => malformed
    else return none) []
  match readLiterals (inner .expression) found.reverse with
  | .ok tree => return tree
  | .error .malformed => malformed
  | .error .exhausted => exhausted

/-- Reads an atom: a name, a literal, or anything in brackets. -/
def atom : Reader Tree := do
  if ← next (fun token => token.lexeme matches .text _) then literals inner
  else
    let token ← take
    match token.lexeme with
    | .name spelling => return .identifier (nameOf spelling) token.position false
    | .number _ => return .constant
    | .mark "(" => parenthesized inner
    | .mark "[" => listDisplay inner
    | .mark "\x7b" => setOrDictionary inner
    | .mark spelling =>
        check (["None", "True", "False", "..."].contains spelling)
        return .constant
    | _ => malformed

/-- Reads an atom and the attributes, calls and subscripts behind it. -/
def primary : Reader Tree := do
  iterate (fun value => do
    if ← accept "." then
      let _ ← takeName
      return some (.compound .member [value])
    else if ← accept "(" then return some (← callOf inner value)
    else if ← accept "[" then return some (← subscriptOf inner value)
    else return none) (← atom inner)

/-! ### Operators -/

/-- Reads operators in front of an operand. -/
def prefixed (operators : List String) (operand : Reader Tree) : Reader Tree := do
  let count ← iterate (fun count => do
    if ← next (fun token => operators.any token.isMark) then
      let _ ← take
      return some (count + 1)
    else return none) 0
  if maximumChain < count then exhausted
  else
    let value ← operand
    return (List.range count).foldl (fun value _ => .compound .unary [value]) value

/-- Reads operands with operators between them, grouped from the left. -/
def chained (operators : List String) (operand : Reader Tree) : Reader Tree := do
  iterate (fun left => do
    if ← next (fun token => operators.any token.isMark) then
      let _ ← take
      return some (.compound .binary [left, ← operand])
    else return none) (← operand)

/-- Reads operands with one operator between them, not grouped at all. -/
def flat (operator : String) (operand : Reader Tree) : Reader Tree := do
  let found ← iterate (fun found => do
    if ← accept operator then return some ((← operand) :: found) else return none)
    [← operand]
  match found with
  | [only] => return only
  | _ => return .compound .boolean found.reverse

/-- Reads a primary expression that may be awaited, and its exponent. -/
def power : Reader Tree := do
  let base ←
    if ← accept "await" then pure (.compound .awaited [← primary inner]) else primary inner
  if ← accept "**" then return .compound .binary [base, ← inner .factor] else return base

/-- Reads a power with signs before it. -/
def factor : Reader Tree := prefixed ["+", "-", "~"] (power inner)

/-- The operators between numbers, loosest first. -/
def binaryOperators : List (List String) :=
  [["|"], ["^"], ["&"], ["<<", ">>"], ["+", "-"], ["*", "/", "//", "%", "@"]]

/-- Reads operators between numbers. -/
def bitwise : Reader Tree := binaryOperators.foldr chained (factor inner)

/-- Takes an operator that compares, if one follows. -/
def comparisonOperator : Reader Bool := do
  if ← next (fun token => ["==", "!=", "<=", "<", ">=", ">", "in"].any token.isMark) then
    let _ ← take
    return true
  else if ← accept "is" then
    let _ ← accept "not"
    return true
  else if (← nextIs "not") && (← secondIs "in") then
    let _ ← take
    let _ ← take
    return true
  else return false

/-- Reads comparisons. -/
def comparison : Reader Tree := do
  let found ← iterate (fun found => do
    if ← comparisonOperator then return some ((← bitwise inner) :: found) else return none)
    [← bitwise inner]
  match found with
  | [only] => return only
  | _ => return .compound .comparison found.reverse

/-- Reads the operators between truth values. -/
def disjunction : Reader Tree :=
  flat "or" (flat "and" (prefixed ["not"] (comparison inner)))

/-- The beginning of an expression that ends with another expression. -/
inductive OpenExpression where
  | lambda (position : Position) (list : ParameterList)
  | conditional (value condition : Tree)

namespace OpenExpression

/-- Completes an expression. -/
def close (last : Tree) : OpenExpression → Tree
  | .lambda position list => .lambda position list.parameters list.allDefaults last
  | .conditional value condition => .compound .conditional [condition, value, last]

/-- How much room an open expression takes. -/
def weight : OpenExpression → Nat
  | .lambda _ _ => 2
  | .conditional _ _ => 1

end OpenExpression

/-- An expression that is being read: what is open, innermost first, and how it ends. -/
structure ExpressionState where
  opened : List OpenExpression := []
  last? : Option Tree := none

/-- Reads the next part of an expression: the head of a function without a name, or a
value, perhaps with a condition that leaves another value open. -/
def expressionStep (state : ExpressionState) : Reader (Option ExpressionState) := do
  if state.last?.isSome then return none
  else if ← nextIs "lambda" then
    let position := (← take).position
    let list ← readParameters (inner .expression) none ":"
    expect ":"
    return some { state with opened := .lambda position list :: state.opened }
  else
    let value ← disjunction inner
    if ← accept "if" then
      let condition ← disjunction inner
      expect "else"
      return some { state with opened := .conditional value condition :: state.opened }
    else return some { state with last? := some value }

/-- Reads an expression. -/
def expression : Reader Tree := do
  let state ← iterate (expressionStep inner) {}
  if maximumChain < (state.opened.map (·.weight)).foldl (· + ·) 0 then exhausted
  else
    let last ← require state.last?
    return state.opened.foldl OpenExpression.close last

end

/-- Reads a phrase with phrases inside of it down to a depth. -/
def phrase : (depth : Nat) → Inner
  | 0 => fun _ => exhausted
  | depth + 1 => fun kind =>
      match kind with
      | .expression => expression (phrase depth)
      | .disjunction => disjunction (phrase depth)
      | .bitwise => bitwise (phrase depth)
      | .factor => factor (phrase depth)
      | .primary => primary (phrase depth)

end Lookalike.Source
