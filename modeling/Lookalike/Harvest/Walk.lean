import Lookalike.Matching
import Lookalike.Source.Tree

/-!
# Walking a syntax tree for its names

A walk keeps a frame for every scope that is open, innermost first.  A name is bound in
the innermost frame, once for each frame and not at all if the frame declares that it
belongs elsewhere.  When a scope is complete, its frame becomes a harvested scope; if
names propagate, they are added to those of the frame around it, without a trace in what
that frame has bound itself.

Walking is bounded by the room for calls inside of calls.  A walk that runs out of room stops
as it is, with frames that are still open.
-/

namespace Lookalike

open Source

/-- What binds a name. -/
inductive BindingKind where
  | function
  | classDefinition
  | argument
  | target
  | importation
  deriving DecidableEq, Inhabited

/-- What a kind of binding is called. -/
def BindingKind.word : BindingKind → String
  | function => "function"
  | classDefinition => "class"
  | argument => "argument"
  | target => "variable"
  | importation => "import"

/-- What opens a scope. -/
inductive ScopeKind where
  | module
  | classBody
  | function
  | lambda
  deriving DecidableEq, Inhabited

/-- What a kind of scope is called. -/
def ScopeKind.word : ScopeKind → String
  | module => "module"
  | classBody => "class"
  | function => "function"
  | lambda => "lambda"

/-- A name as it is bound in a source. -/
structure Binding where
  text : String
  place : BindingPlace
  deriving DecidableEq, Inhabited

/-- A binding as a name to be matched. -/
def Binding.toName (binding : Binding) : Name :=
  { text := .letters binding.text, origin := .binding binding.place }

/-- A scope and the names that are bound in it, in order. -/
structure HarvestedScope where
  place : ScopePlace
  bindings : List Binding
  deriving DecidableEq, Inhabited

/-- A harvested scope as a collection of names to be matched. -/
def HarvestedScope.toCollection (scope : HarvestedScope) : Collection :=
  { scope := .scope scope.place, names := scope.bindings.map Binding.toName }

/-- A scope that is open. -/
structure Frame where
  place : ScopePlace
  /-- The names of the scope so far, last one first. -/
  bindings : List Binding := []
  /-- The texts that the scope has bound itself. -/
  seen : List String := []
  /-- The texts that belong to other scopes. -/
  declared : List String := []
  deriving Inhabited

namespace Frame

/-- Binds a name in a frame, unless it is empty, bound already, or declared to belong
elsewhere. -/
def bind (frame : Frame) (text : String) (position : Position) (kind : BindingKind) :
    Frame :=
  if text.isEmpty || frame.seen.contains text || frame.declared.contains text then frame
  else
    let place : BindingPlace :=
      { filePath := frame.place.filePath
        line := position.line
        column := position.column
        kind := kind.word
        scope := frame.place.qualifiedName }
    { frame with bindings := ⟨text, place⟩ :: frame.bindings, seen := text :: frame.seen }

/-- Declares that names belong elsewhere. -/
def declare (frame : Frame) (names : List String) : Frame :=
  { frame with declared := names ++ frame.declared }

/-- A frame as a harvested scope. -/
def harvested (frame : Frame) : HarvestedScope :=
  { place := frame.place, bindings := frame.bindings.reverse }

/-- Takes over the names of a scope inside. -/
def adopt (frame : Frame) (scope : HarvestedScope) : Frame :=
  { frame with bindings := scope.bindings.reverse ++ frame.bindings }

end Frame

/-- A walk through a syntax tree. -/
structure Walk where
  /-- Whether the names of a scope are added to those of the scope around it. -/
  propagates : Bool
  filePath : String
  /-- The open scopes, innermost first. -/
  frames : List Frame := []
  /-- The complete scopes, last one first. -/
  completed : List HarvestedScope := []
  deriving Inhabited

namespace Walk

/-- Changes the innermost frame. -/
def onTop (walk : Walk) (change : Frame → Frame) : Walk :=
  match walk.frames with
  | [] => walk
  | frame :: frames => { walk with frames := change frame :: frames }

/-- Binds a name in the innermost scope. -/
def bind (walk : Walk) (text : String) (position : Position) (kind : BindingKind) : Walk :=
  walk.onTop (·.bind text position kind)

/-- Binds the parameters of a function in the innermost scope. -/
def bindParameters (walk : Walk) (parameters : Parameters) : Walk :=
  parameters.all.foldl
    (fun walk parameter => walk.bind parameter.name parameter.position .argument) walk

/-- Declares in the innermost scope that names belong elsewhere. -/
def declare (walk : Walk) (names : List String) : Walk :=
  walk.onTop (·.declare names)

/-- The qualified name of a scope that is opened next. -/
def qualify (walk : Walk) (name : String) : String :=
  match walk.frames with
  | [] => name
  | frame :: _ => frame.place.qualifiedName ++ "." ++ name

/-- Opens a scope. -/
def push (walk : Walk) (kind : ScopeKind) (name : String) (line : Nat) : Walk :=
  let place : ScopePlace :=
    { filePath := walk.filePath
      kind := kind.word
      name := name
      qualifiedName := walk.qualify name
      line := line }
  { walk with frames := { place := place } :: walk.frames }

/-- Completes the innermost scope. -/
def pop (walk : Walk) : Walk :=
  match walk.frames with
  | [] => walk
  | frame :: frames =>
      let scope := frame.harvested
      let walk := { walk with frames := frames, completed := scope :: walk.completed }
      if walk.propagates then walk.onTop (·.adopt scope) else walk

end Walk

/-- Walks on, or runs out of room and stops with the walk as it is then. -/
abbrev Visit := Walk → Except Walk Walk

/-- Visits trees one after the other. -/
def visitAll (visit : Tree → Visit) : List Tree → Visit
  | [], walk => .ok walk
  | tree :: trees, walk => do
      let walk ← visit tree walk
      visitAll visit trees walk

/-- Visits the body of a scope, which is opened before and completed after it. -/
def visitScope (kind : ScopeKind) (name : String) (line : Nat) (parameters : Parameters)
    (body : Visit) : Visit := fun walk => do
  let walk ← body ((walk.push kind name line).bindParameters parameters)
  return walk.pop

/-- The name of a function that has none. -/
def lambdaName : String := "<lambda>"

/-- Visits a tree with room for a number of calls inside of calls.  A visit takes one call, the
visitor that it chooses another, and this one needs room for one more.  The visitor itself visits
the parts of most trees.  Decorators and default values it leaves to a helper, and the parts of
handlers and captures to the visitor that all other trees have, so that these take a third call.
What a visitor does at a tree itself, such as binding names, goes up to three calls deeper; this is
not counted here but kept back from the room.  Annotations of parameters and of results are not
visited. -/
def visit : (room : Nat) → Tree → Visit
  | 0, _ | 1, _ | 2, _ => fun walk => .error walk
  | room + 3, tree => fun walk =>
      match tree with
      | .identifier name position stored =>
          .ok (if stored then walk.bind name position .target else walk)
      | .compound _ parts => visitAll (visit (room + 1)) parts walk
      | .function name position decorators parameters defaults _ body => do
          let walk ← visitAll (visit room) (decorators ++ defaults) walk
          visitScope .function name position.line parameters (visitAll (visit (room + 1)) body)
            (walk.bind name position .function)
      | .lambda position parameters defaults body => do
          let walk ← visitAll (visit room) defaults walk
          visitScope .lambda lambdaName position.line parameters (visit (room + 1) body) walk
      | .classDefinition name position decorators bases keywordValues body => do
          let walk ← visitAll (visit (room + 1)) (decorators ++ bases ++ keywordValues) walk
          visitScope .classBody name position.line {} (visitAll (visit (room + 1)) body)
            (walk.bind name position .classDefinition)
      | .handler alias? position parts =>
          visitAll (visit room) parts
            (alias?.elim walk fun name => walk.bind name position .target)
      | .importation aliases position =>
          .ok (aliases.foldl (fun walk name => walk.bind name position .importation) walk)
      | .declaration names => .ok (walk.declare names)
      | .capture name? position parts => do
          let walk ← visitAll (visit room) parts walk
          return name?.elim walk fun name => walk.bind name position .target

end Lookalike
