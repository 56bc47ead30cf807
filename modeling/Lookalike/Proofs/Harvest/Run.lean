import Lookalike.Proofs.Harvest.Occurrence
import Mathlib.Tactic.SplitIfs

/-!
# Walking a tree is running its occurrences

Visiting a tree does two things at once: it finds its way through the tree, as long as there
is room, and it changes the walk.  Running a list of occurrences does only the second.  A visit
succeeds just if there is room for all positions that are visited, and then leaves the walk as
the tree's occurrences leave it.
-/

namespace Lookalike

open Source

/-! ### Running occurrences -/

mutual

/-- The walk after an occurrence in its innermost scope. -/
def Occurrence.run : Occurrence → Walk → Walk
  | .binding text position kind, walk => walk.bind text position kind
  | .declaration names, walk => walk.declare names
  | .scope kind name line inside, walk => (runAll inside (walk.push kind name line)).pop

/-- The walk after occurrences one after the other. -/
def runAll : List Occurrence → Walk → Walk
  | [], walk => walk
  | occurrence :: later, walk => runAll later (occurrence.run walk)

end

@[simp]
theorem runAll_append (occurrences occurrences' : List Occurrence) (walk : Walk) :
    runAll (occurrences ++ occurrences') walk = runAll occurrences' (runAll occurrences walk) := by
  induction occurrences generalizing walk with
  | nil => rfl
  | cons occurrence later ih => simp [runAll, ih]

theorem runAll_map_eq_foldl {Given : Type} (occurrence : Given → Occurrence)
    (given : List Given) (walk : Walk) :
    runAll (given.map occurrence) walk =
      given.foldl (fun walk one => (occurrence one).run walk) walk := by
  induction given generalizing walk with
  | nil => rfl
  | cons one given ih => simp [runAll, ih]

theorem bindParameters_eq_runAll (parameters : Parameters) (walk : Walk) :
    walk.bindParameters parameters = runAll parameters.occurrences walk := by
  rw [Source.Parameters.occurrences, runAll_map_eq_foldl]
  rfl

/-! ### Visited positions -/

/-- The parts of a tree that its visitor visits itself.  The annotations of parameters and
results are not visited at all. -/
def Source.Tree.directParts : Tree → List Tree
  | .compound _ parts => parts
  | .function _ _ _ _ _ _ body => body
  | .lambda _ _ _ body => [body]
  | .classDefinition _ _ decorators bases keywordValues body =>
      decorators ++ bases ++ keywordValues ++ body
  | .handler _ _ _ | .capture _ _ _ => []
  | .identifier _ _ _ | .importation _ _ | .declaration _ => []

/-- The parts of a tree that its visitor leaves to another call. -/
def Source.Tree.deferredParts : Tree → List Tree
  | .handler _ _ parts | .capture _ _ parts => parts
  | .function _ _ decorators _ defaults _ _ => decorators ++ defaults
  | .lambda _ _ defaults _ => defaults
  | .compound _ _ | .classDefinition _ _ _ _ _ _ => []
  | .identifier _ _ _ | .importation _ _ | .declaration _ => []

/-- Whether there is room to walk a tree. -/
def Source.Tree.isWalkable : (room : Nat) → Tree → Bool
  | 0, _ | 1, _ | 2, _ => false
  | room + 3, tree =>
      tree.deferredParts.all (isWalkable room) && tree.directParts.all (isWalkable (room + 1))

/-! ### Visits -/

theorem toOption_bind {Fault Value Result : Type} (value : Except Fault Value)
    (next : Value → Except Fault Result) :
    (value >>= next).toOption = value.toOption.bind fun found => (next found).toOption := by
  cases value <;> rfl

theorem eq_ok_iff_toOption_eq_some {Fault Value : Type} {value : Except Fault Value}
    {found : Value} : value = .ok found ↔ value.toOption = some found := by
  cases value <;> simp [Except.toOption]

/-- A visit that succeeds on some trees only, and then runs their occurrences. -/
def VisitRuns (visit : Tree → Visit) (walkable : Tree → Bool) : Prop :=
  ∀ tree walk, (visit tree walk).toOption =
    if walkable tree then some (runAll tree.occurrences walk) else none

theorem VisitRuns.toOption_visitAll {visit : Tree → Visit} {walkable : Tree → Bool}
    (runs : VisitRuns visit walkable) (trees : List Tree) (walk : Walk) :
    (visitAll visit trees walk).toOption =
      if trees.all walkable then some (runAll (occurrencesOf trees) walk) else none := by
  induction trees generalizing walk with
  | nil => rfl
  | cons tree trees ih =>
      rw [visitAll, toOption_bind, runs tree walk]
      by_cases walkableTree : walkable tree = true
      · simp [walkableTree, ih, occurrencesOf]
      · simp [walkableTree]

theorem toOption_visitScope {kind : ScopeKind} {name : String} {line : Nat}
    {parameters : Parameters} {body : Visit} {inside : List Occurrence} {walkable : Bool}
    (runs : ∀ walk, (body walk).toOption = if walkable then some (runAll inside walk) else none)
    (walk : Walk) :
    (visitScope kind name line parameters body walk).toOption =
      if walkable then
        some ((Occurrence.scope kind name line (parameters.occurrences ++ inside)).run walk)
      else none := by
  rw [visitScope, toOption_bind, runs, bindParameters_eq_runAll]
  cases walkable <;> simp [Occurrence.run, pure, Except.pure, Except.toOption]

/-- Visiting trees and going on succeeds if both do. -/
theorem VisitRuns.toOption_bind_visitAll {visit : Tree → Visit} {walkable : Tree → Bool}
    (runs : VisitRuns visit walkable) {next : Visit} {after : Walk → Walk} {succeeds : Bool}
    (nextEq : ∀ walk, (next walk).toOption = if succeeds then some (after walk) else none)
    (trees : List Tree) (walk : Walk) :
    (visitAll visit trees walk >>= next).toOption =
      if trees.all walkable && succeeds then
        some (after (runAll (occurrencesOf trees) walk))
      else none := by
  rw [toOption_bind, runs.toOption_visitAll]
  cases trees.all walkable with
  | true => simp [nextEq]
  | false => rfl

/-- A visit succeeds just if the tree is walkable, and runs the tree's occurrences. -/
theorem visitRuns_visit : ∀ room, VisitRuns (visit room) (Tree.isWalkable room)
  | 0 | 1 | 2 => fun _ _ => rfl
  | room + 3 => by
      have direct := visitRuns_visit (room + 1)
      have deferred := visitRuns_visit room
      intro tree walk
      cases tree with
      | identifier name position stored => cases stored <;> rfl
      | compound construct parts =>
          simp [visit, direct.toOption_visitAll, Tree.isWalkable, Tree.directParts,
            Tree.deferredParts, Tree.occurrences]
      | function name position decorators parameters defaults annotations body =>
          rw [visit, deferred.toOption_bind_visitAll fun walk =>
            toOption_visitScope (direct.toOption_visitAll body) (walk.bind name position .function)]
          simp [Tree.isWalkable, Tree.directParts, Tree.deferredParts, Tree.occurrences, runAll,
            Occurrence.run]
      | lambda position parameters defaults body =>
          rw [visit, deferred.toOption_bind_visitAll (toOption_visitScope (direct body))]
          simp [Tree.isWalkable, Tree.directParts, Tree.deferredParts, Tree.occurrences, runAll,
            Occurrence.run]
      | classDefinition name position decorators bases keywordValues body =>
          rw [visit, direct.toOption_bind_visitAll fun walk =>
            toOption_visitScope (direct.toOption_visitAll body)
              (walk.bind name position .classDefinition)]
          simp [Tree.isWalkable, Tree.directParts, Tree.deferredParts, Tree.occurrences, runAll,
            Occurrence.run, Bool.and_assoc, Source.Parameters.occurrences]
      | handler alias? position parts =>
          cases alias? <;>
            simp [visit, deferred.toOption_visitAll, Tree.isWalkable, Tree.directParts,
              Tree.deferredParts, Tree.occurrences, runAll, Occurrence.run]
      | importation aliases position =>
          simp only [visit, Tree.isWalkable, Tree.directParts, Tree.deferredParts,
            Tree.occurrences, runAll_map_eq_foldl]
          rfl
      | declaration names => rfl
      | capture name? position parts =>
          have bind_eq (walk : Walk) :
              (pure (name?.elim walk fun name => walk.bind name position .target) :
                Except Walk Walk).toOption =
              if true then
                some (runAll (name?.toList.map fun name => .binding name position .target) walk)
              else none := by
            cases name? <;> rfl
          rw [visit, deferred.toOption_bind_visitAll bind_eq]
          simp [Tree.isWalkable, Tree.directParts, Tree.deferredParts, Tree.occurrences]

end Lookalike
