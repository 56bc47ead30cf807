import Lookalike.Harvest

/-!
# What happens in a scope

Harvesting walks a syntax tree with a stack of open frames.  This file says without a
stack what the walk is about.  A tree stands for a list of occurrences: the names that it
binds, the declarations that it makes, and the scopes that it opens, each with the
occurrences inside it.  The list of a tree is put together from the lists of its parts,
in the order in which they are read.

From the occurrences of a scope follow the names that it records itself, the names that it
gathers when inner scopes hand theirs on, and the scopes inside it in the order in which
they are complete.
-/

namespace Lookalike

open Source

/-- What can happen in a scope. -/
inductive Occurrence where
  /-- A name is bound. -/
  | binding (text : String) (position : Position) (kind : BindingKind)
  /-- Names are declared to belong to another scope. -/
  | declaration (names : List String)
  /-- A scope is opened, run through and completed. -/
  | scope (kind : ScopeKind) (name : String) (line : Nat) (inside : List Occurrence)

/-! ### Occurrences of a syntax tree -/

/-- Parameters are bound by position, then by keyword, then those that take the rest. -/
def Source.Parameters.occurrences (parameters : Parameters) : List Occurrence :=
  (parameters.positionalOnly ++ parameters.positional ++ parameters.keywordOnly ++
    parameters.variadic.toList ++ parameters.keywords.toList).map fun parameter =>
      .binding parameter.name parameter.position .argument

mutual

/-- What a tree makes happen in the scope in which it stands.  A function, a lambda and a
class make happen there what stands outside their bodies; their own name comes next. -/
def Source.Tree.occurrences : Tree → List Occurrence
  | .identifier name position stored =>
      if stored then [.binding name position .target] else []
  | .compound _ parts => occurrencesOf parts
  | .function name position decorators parameters defaults _ body =>
      occurrencesOf decorators ++ occurrencesOf defaults ++
        [.binding name position .function,
          .scope .function name position.line (parameters.occurrences ++ occurrencesOf body)]
  | .lambda position parameters defaults body =>
      occurrencesOf defaults ++
        [.scope .lambda lambdaName position.line
          (parameters.occurrences ++ body.occurrences)]
  | .classDefinition name position decorators bases keywordValues body =>
      occurrencesOf decorators ++ occurrencesOf bases ++ occurrencesOf keywordValues ++
        [.binding name position .classDefinition,
          .scope .classBody name position.line (occurrencesOf body)]
  | .handler alias? position parts =>
      (alias?.toList.map fun name => .binding name position .target) ++ occurrencesOf parts
  | .importation aliases position =>
      aliases.map fun name => .binding name position .importation
  | .declaration names => [.declaration names]
  | .capture name? position parts =>
      occurrencesOf parts ++ name?.toList.map fun name => .binding name position .target

/-- What trees make happen that are read one after the other. -/
def occurrencesOf : List Tree → List Occurrence
  | [] => []
  | tree :: trees => tree.occurrences ++ occurrencesOf trees

end

@[simp]
theorem occurrencesOf_append (trees trees' : List Tree) :
    occurrencesOf (trees ++ trees') = occurrencesOf trees ++ occurrencesOf trees' := by
  induction trees with
  | nil => rfl
  | cons tree trees ih => simp [occurrencesOf, ih]

/-! ### Names of a scope -/

namespace Occurrence

/-- Whether an occurrence binds a text or declares that it belongs elsewhere. -/
def mentions (text : String) : Occurrence → Bool
  | binding bound _ _ => bound == text
  | declaration names => names.contains text
  | scope _ _ _ _ => false

end Occurrence

/-- A binding in a scope, with the place at which it is made. -/
def ScopePlace.binding (place : ScopePlace) (text : String) (position : Position)
    (kind : BindingKind) : Binding :=
  { text := text
    place :=
      { filePath := place.filePath
        line := position.line
        column := position.column
        kind := kind.word
        scope := place.qualifiedName } }

/-- What a scope records of an occurrence: the binding of a text that is not empty and that
nothing `earlier` in the scope mentions. -/
def Occurrence.recorded (place : ScopePlace) (earlier : List Occurrence) :
    Occurrence → List Binding
  | .binding text position kind =>
      if text ≠ "" ∧ earlier.all (!·.mentions text) then [place.binding text position kind]
      else []
  | .declaration _ => []
  | .scope _ _ _ _ => []

/-- What a scope records of occurrences one after the other. -/
def recorded (place : ScopePlace) (earlier : List Occurrence) :
    List Occurrence → List Binding
  | [] => []
  | occurrence :: later =>
      occurrence.recorded place earlier ++ recorded place (occurrence :: earlier) later

/-! ### Scopes inside a scope -/

/-- The place of a scope that is opened inside another one. -/
def ScopePlace.inner (place : ScopePlace) (kind : ScopeKind) (name : String) (line : Nat) :
    ScopePlace :=
  { filePath := place.filePath
    kind := kind.word
    name := name
    qualifiedName := place.qualifiedName ++ "." ++ name
    line := line }

/-- The outermost scope of a source. -/
def modulePlace (filePath : String) : ScopePlace :=
  { filePath := filePath
    kind := ScopeKind.module.word
    name := moduleName filePath
    qualifiedName := moduleName filePath
    line := 1 }

mutual

/-- What a scope gathers of an occurrence when inner scopes hand on their names: its own
binding, or all that an inner scope has gathered. -/
def Occurrence.gathered (place : ScopePlace) (earlier : List Occurrence) :
    Occurrence → List Binding
  | .binding text position kind =>
      Occurrence.recorded place earlier (.binding text position kind)
  | .declaration _ => []
  | .scope kind name line inside => gathered (place.inner kind name line) [] inside

/-- What a scope gathers of occurrences one after the other. -/
def gathered (place : ScopePlace) (earlier : List Occurrence) :
    List Occurrence → List Binding
  | [] => []
  | occurrence :: later =>
      occurrence.gathered place earlier ++ gathered place (occurrence :: earlier) later

end

/-- A scope of a source: where it stands and what happens in it. -/
structure SourceScope where
  place : ScopePlace
  course : List Occurrence

namespace SourceScope

/-- The names of a scope, with or without those that inner scopes hand on. -/
def bindings (propagates : Bool) (scope : SourceScope) : List Binding :=
  if propagates then gathered scope.place [] scope.course
  else recorded scope.place [] scope.course

/-- What is harvested of a scope. -/
def harvested (propagates : Bool) (scope : SourceScope) : HarvestedScope :=
  { place := scope.place, bindings := scope.bindings propagates }

end SourceScope

mutual

/-- The scopes that an occurrence opens, inner ones first. -/
def Occurrence.scopes (place : ScopePlace) : Occurrence → List SourceScope
  | .binding _ _ _ => []
  | .declaration _ => []
  | .scope kind name line inside =>
      scopesOf (place.inner kind name line) inside ++ [⟨place.inner kind name line, inside⟩]

/-- The scopes that occurrences open one after the other. -/
def scopesOf (place : ScopePlace) : List Occurrence → List SourceScope
  | [] => []
  | occurrence :: later => occurrence.scopes place ++ scopesOf place later

end

theorem scopesOf_eq_flatMap (place : ScopePlace) (occurrences : List Occurrence) :
    scopesOf place occurrences = occurrences.flatMap (Occurrence.scopes place) := by
  induction occurrences with
  | nil => rfl
  | cons occurrence later ih => simp [scopesOf, ih]

@[simp]
theorem scopesOf_append (place : ScopePlace) (occurrences occurrences' : List Occurrence) :
    scopesOf place (occurrences ++ occurrences') =
      scopesOf place occurrences ++ scopesOf place occurrences' := by
  simp [scopesOf_eq_flatMap]

/-- Binding names opens no scope. -/
theorem scopesOf_map_binding {Given : Type} (place : ScopePlace) (text : Given → String)
    (position : Given → Position) (kind : BindingKind) (given : List Given) :
    scopesOf place (given.map fun one => .binding (text one) (position one) kind) = [] := by
  simp [scopesOf_eq_flatMap, List.flatMap_map, Occurrence.scopes]

@[simp]
theorem scopesOf_parameters (place : ScopePlace) (parameters : Parameters) :
    scopesOf place parameters.occurrences = [] :=
  scopesOf_map_binding place Parameter.name Parameter.position .argument _

/-- The outermost scope of a source. -/
def moduleScope (filePath : String) (statements : List Tree) : SourceScope :=
  { place := modulePlace filePath, course := occurrencesOf statements }

/-- All scopes of a source in the order in which they are complete, the outermost last. -/
def moduleScopes (filePath : String) (statements : List Tree) : List SourceScope :=
  scopesOf (modulePlace filePath) (occurrencesOf statements) ++
    [moduleScope filePath statements]

/-- A function with a lambda as a default value that is bound to a name, with a global
declaration, and with a class inside that binds two names of the function's own. -/
def nestedStatements : List Tree :=
  [.function "outer" ⟨1, 0⟩ [] { positional := [⟨"a", ⟨1, 10⟩⟩, ⟨"b", ⟨1, 13⟩⟩] }
    [.compound .namedExpression
      [.identifier "c" ⟨1, 16⟩ true, .lambda ⟨1, 21⟩ {} [] Tree.constant]]
    []
    [.declaration ["g"],
      .compound .assignment [.identifier "g" ⟨3, 4⟩ true, Tree.constant],
      .classDefinition "Inner" ⟨4, 4⟩ [] [] []
        [.compound .assignment [.identifier "x" ⟨5, 8⟩ true, Tree.constant],
          .compound .assignment [.identifier "a" ⟨6, 8⟩ true, Tree.constant]],
      .compound .assignment [.identifier "x" ⟨7, 4⟩ true, Tree.constant]]]

end Lookalike
