import Lookalike.Source.Token
import Lookalike.Source.Tree

/-!
# Reading tokens

A reader takes tokens from a stream and gives a value or fails.  A failure that only
says that the tokens have another form lets the next alternative try; running out of
room for nested phrases ends the reading for good.
-/

namespace Lookalike.Source

/-- Why tokens are not read. -/
inductive Fault where
  /-- The tokens do not have the form that is read. -/
  | malformed
  /-- Phrases are nested too deeply to be read at all. -/
  | exhausted
  deriving DecidableEq

/-- The tokens that remain. -/
structure Stream where
  tokens : List Token
  /-- How many tokens remain. -/
  count : Nat

/-- The stream of a list of tokens. -/
def Stream.ofTokens (tokens : List Token) : Stream :=
  { tokens := tokens, count := tokens.length }

/-- A reader of values of a type. -/
abbrev Reader (Value : Type) := StateT Stream (Except Fault) Value

namespace Reader

variable {Value State : Type}

/-- Fails for the form of the tokens. -/
def malformed : Reader Value := fun _ => .error .malformed

/-- Fails for lack of room. -/
def exhausted : Reader Value := fun _ => .error .exhausted

/-- Reads in a second way what cannot be read in a first one. -/
def either (first second : Reader Value) : Reader Value := fun stream =>
  match first stream with
  | .error .malformed => second stream
  | outcome => outcome

/-- Whether something can be read from here.  It is not taken. -/
def ahead (reader : Reader Value) : Reader Bool := fun stream =>
  match reader stream with
  | .ok _ => .ok (true, stream)
  | .error .malformed => .ok (false, stream)
  | .error .exhausted => .error .exhausted

/-- The value of an option; nothing at all is malformed. -/
def require (value? : Option Value) : Reader Value :=
  match value? with
  | some value => pure value
  | none => malformed

/-- Fails unless a condition holds. -/
def check (condition : Bool) : Reader Unit :=
  if condition then pure () else malformed

/-- Whether the next token has a property. -/
def next (holds : Token → Bool) : Reader Bool := fun stream =>
  match stream.tokens with
  | [] => .ok (false, stream)
  | token :: _ => .ok (holds token, stream)

/-- Whether the token after the next one has a property. -/
def second (holds : Token → Bool) : Reader Bool := fun stream =>
  match stream.tokens with
  | _ :: token :: _ => .ok (holds token, stream)
  | _ => .ok (false, stream)

/-- Takes the next token. -/
def take : Reader Token := fun stream =>
  match stream.tokens with
  | [] => .error .malformed
  | token :: tokens => .ok (token, ⟨tokens, stream.count - 1⟩)

/-- Whether the next token is a keyword or an operator. -/
def nextIs (spelling : String) : Reader Bool := next (Token.isMark spelling)

/-- Whether the token after the next one is a keyword or an operator. -/
def secondIs (spelling : String) : Reader Bool := second (Token.isMark spelling)

/-- Takes a keyword or an operator if it is the next token, and tells whether it was. -/
def accept (spelling : String) : Reader Bool := do
  if ← nextIs spelling then
    let _ ← take
    return true
  else return false

/-- Takes a keyword or an operator. -/
def expect (spelling : String) : Reader Unit := do
  check (← accept spelling)

/-- Takes a word that is a keyword only in some places. -/
def expectWord (spelling : String) : Reader Unit := do
  check (← next (Token.isName spelling))
  let _ ← take

/-- Takes the end of a line. -/
def expectLineEnd : Reader Unit := do
  match (← take).lexeme with
  | .lineEnd => return ()
  | _ => malformed

/-- Takes the beginning of a block. -/
def expectBlockStart : Reader Unit := do
  match (← take).lexeme with
  | .blockStart => return ()
  | _ => malformed

/-- Takes the end of a block. -/
def expectBlockEnd : Reader Unit := do
  match (← take).lexeme with
  | .blockEnd => return ()
  | _ => malformed

/-- Whether the next token is a name. -/
def nextIsName : Reader Bool := next fun token =>
  match token.lexeme with
  | .name _ => true
  | _ => false

/-- Takes a name. -/
def takeName : Reader (String × Position) := do
  let token ← take
  match token.lexeme with
  | .name spelling => return (nameOf spelling, token.position)
  | _ => malformed

/-- Where the next token begins. -/
def place : Reader Position := fun stream =>
  match stream.tokens with
  | [] => .ok (default, stream)
  | token :: _ => .ok (token.position, stream)

/-- Repeats a step a number of times at most. -/
def iterateAtMost : Nat → (State → Reader (Option State)) → State → Reader State
  | 0, _, _ => malformed
  | steps + 1, step, state => do
      match ← step state with
      | none => return state
      | some state => iterateAtMost steps step state

/-- Repeats a step until it has nothing more to read.  A step that goes on takes a
token, so that there are no more steps than tokens. -/
def iterate (step : State → Reader (Option State)) (state : State) : Reader State :=
  fun stream => iterateAtMost (stream.count + 1) step state stream

/-- Reads further items, each behind a comma.  A comma before anything that begins no
item is left where it is. -/
def itemsAfter (begins : Token → Bool) (item : Reader Value) (first : Value) :
    Reader (List Value) := do
  let found ← iterate (fun found => do
    if (← nextIs ",") && (← second begins) then
      let _ ← take
      return some ((← item) :: found)
    else return none) [first]
  return found.reverse

/-- Reads one item or more with commas between them, and perhaps one behind them. -/
def items (begins : Token → Bool) (item : Reader Value) : Reader (List Value) := do
  let found ← itemsAfter begins item (← item)
  let _ ← accept ","
  return found

/-- Reads a single item, or a tuple if there is a comma. -/
def tupleAfter (begins : Token → Bool) (item : Reader Tree) (first : Tree) : Reader Tree := do
  let found ← itemsAfter begins item first
  let closed ← accept ","
  match found, closed with
  | [only], false => return only
  | _, _ => return .compound .tuple found

/-- Reads a single item, or a tuple if there is a comma. -/
def itemOrTuple (begins : Token → Bool) (item : Reader Tree) : Reader Tree := do
  tupleAfter begins item (← item)

end Reader

end Lookalike.Source
