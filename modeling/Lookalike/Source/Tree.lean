import Lookalike.Source.Cursor

/-!
# Syntax trees

A tree keeps of a source text what matters for the names in it: which phrases contain
which, in the order in which they are read, and the phrases that bind names or open a
scope of their own.  All other phrases are compounds, told apart by their construct.
-/

namespace Lookalike.Source

/-- The kinds of phrases that neither bind a name nor open a scope themselves. -/
inductive Construct where
  | alternatives
  | assertion
  | assignment
  | member
  | augmentedAssignment
  | awaited
  | binary
  | boolean
  | call
  | case
  | clause
  | comparison
  | comprehension
  | conditional
  | constant
  | deletion
  | dictionary
  | expression
  | field
  | keywordArgument
  | list
  | literalPattern
  | namedExpression
  | patternArguments
  | sequencePattern
  | set
  | slice
  | starred
  | statement
  | subscript
  | template
  | tuple
  | typedAssignment
  | unary
  | withItem
  | yielded
  deriving DecidableEq, Inhabited

/-- A parameter: its name and its place. -/
structure Parameter where
  name : String
  position : Position
  deriving DecidableEq, Inhabited

/-- The parameters of a function. -/
structure Parameters where
  positionalOnly : List Parameter := []
  positional : List Parameter := []
  keywordOnly : List Parameter := []
  /-- The parameter that takes all further positions. -/
  variadic : Option Parameter := none
  /-- The parameter that takes all further keywords. -/
  keywords : Option Parameter := none
  deriving Inhabited

/-- All parameters in the order in which they are bound. -/
def Parameters.all (parameters : Parameters) : List Parameter :=
  parameters.positionalOnly ++ parameters.positional ++ parameters.keywordOnly ++
    parameters.variadic.toList ++ parameters.keywords.toList

/-- A syntax tree. -/
inductive Tree where
  /-- A name, which is bound here if it is `stored`. -/
  | identifier (name : String) (position : Position) (stored : Bool)
  | compound (construct : Construct) (parts : List Tree)
  /-- A function.  Decorators and default values belong to the scope around it. -/
  | function (name : String) (position : Position) (decorators : List Tree)
      (parameters : Parameters) (defaults annotations body : List Tree)
  | lambda (position : Position) (parameters : Parameters) (defaults : List Tree)
      (body : Tree)
  /-- A class.  All but its body belongs to the scope around it. -/
  | classDefinition (name : String) (position : Position)
      (decorators bases keywordValues body : List Tree)
  /-- An exception handler, which binds its alias before its parts are read. -/
  | handler (alias? : Option String) (position : Position) (parts : List Tree)
  /-- An import with the aliases that it binds. -/
  | importation (aliases : List String) (position : Position)
  /-- A declaration of names that belong to another scope. -/
  | declaration (names : List String)
  /-- A pattern that binds a name after its parts are read. -/
  | capture (name? : Option String) (position : Position) (parts : List Tree)
  deriving Inhabited

namespace Tree

/-- A constant, of which nothing is kept. -/
def constant : Tree := .compound .constant []

/-! ### Targets -/

mutual

/-- A phrase as the target of an assignment, in which its names are bound. -/
def asTarget? : Tree → Option Tree
  | .identifier name position _ => some (.identifier name position true)
  | .compound construct parts =>
      match construct with
      | .member | .subscript => some (.compound construct parts)
      | .tuple | .list | .starred => (asTargets? parts).map (.compound construct ·)
      | _ => none
  | _ => none

/-- Phrases as targets. -/
def asTargets? : List Tree → Option (List Tree)
  | [] => some []
  | part :: parts => do
      let part ← asTarget? part
      let parts ← asTargets? parts
      return part :: parts

end

/-- A phrase as the only target of an assignment that does not unpack its value. -/
def asSingleTarget? : Tree → Option Tree
  | .identifier name position _ => some (.identifier name position true)
  | .compound construct parts =>
      if construct = .member ∨ construct = .subscript then some (.compound construct parts)
      else none
  | _ => none

mutual

/-- Whether a phrase can be deleted. -/
def isDeletable : Tree → Bool
  | .identifier _ _ _ => true
  | .compound construct parts =>
      match construct with
      | .member | .subscript => true
      | .tuple | .list => areDeletable parts
      | _ => false
  | _ => false

/-- Whether all of several phrases can be deleted. -/
def areDeletable : List Tree → Bool
  | [] => true
  | part :: parts => isDeletable part && areDeletable parts

end

/-! ### Depth -/

/-- The trees directly inside a tree. -/
def children : Tree → List Tree
  | .compound _ parts | .handler _ _ parts | .capture _ _ parts => parts
  | .function _ _ decorators _ defaults annotations body =>
      decorators ++ defaults ++ annotations ++ body
  | .lambda _ _ defaults body => defaults ++ [body]
  | .classDefinition _ _ decorators bases keywordValues body =>
      decorators ++ bases ++ keywordValues ++ body
  | .identifier _ _ _ | .importation _ _ | .declaration _ => []

/-- Whether a tree has more levels than a limit. -/
def isDeeperThan : Nat → Tree → Bool
  | 0, _ => true
  | limit + 1, tree => tree.children.any (isDeeperThan limit)

end Tree

end Lookalike.Source
