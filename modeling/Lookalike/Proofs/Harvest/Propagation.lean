import Lookalike.Proofs.Harvest.Frames
import Mathlib.Data.List.Perm.Lattice

/-!
# Names that inner scopes hand on

With propagation, a scope gathers its own names and, whenever a scope directly inside it is
complete, all that this one has gathered.  The names that are handed on do not count as
bound by the scope around, so what a scope records itself is the same with and without
propagation.  Nothing is lost and nothing is doubled: a scope gathers what it records and
what all scopes inside it record, each binding once.
-/

namespace Lookalike

open Source

/-! ### The parts of a scope's names -/

/-- What a scope adds to its names at one time: a binding of its own, or all that a scope
directly inside it has gathered. -/
inductive Part where
  | own (binding : Binding)
  | inner (scope : SourceScope)

namespace Part

/-- The binding of its own that a part is. -/
def own? : Part → Option Binding
  | own binding => some binding
  | inner _ => none

/-- The scope that a part comes from. -/
def inner? : Part → Option SourceScope
  | own _ => none
  | inner scope => some scope

/-- The names of a part when inner scopes hand on theirs. -/
def bindings : Part → List Binding
  | own binding => [binding]
  | inner scope => scope.bindings true

end Part

/-- What an occurrence adds to the names of its scope. -/
def Occurrence.parts (place : ScopePlace) (earlier : List Occurrence) : Occurrence → List Part
  | .binding text position kind =>
      (Occurrence.recorded place earlier (.binding text position kind)).map .own
  | .declaration _ => []
  | .scope kind name line inside => [.inner ⟨place.inner kind name line, inside⟩]

/-- What occurrences one after the other add to the names of their scope. -/
def partsOf (place : ScopePlace) (earlier : List Occurrence) : List Occurrence → List Part
  | [] => []
  | occurrence :: later =>
      occurrence.parts place earlier ++ partsOf place (occurrence :: earlier) later

namespace SourceScope

/-- What a scope adds to its names, in order. -/
def parts (scope : SourceScope) : List Part :=
  partsOf scope.place [] scope.course

/-- A scope and all scopes inside it, at any depth, in the order in which they are
complete. -/
def scopes (scope : SourceScope) : List SourceScope :=
  scopesOf scope.place scope.course ++ [scope]

end SourceScope

section

variable (place : ScopePlace)

theorem filterMap_own?_partsOf (earlier occurrences : List Occurrence) :
    (partsOf place earlier occurrences).filterMap Part.own? =
      recorded place earlier occurrences := by
  induction occurrences generalizing earlier with
  | nil => rfl
  | cons occurrence later ih =>
      have ownEq : (occurrence.parts place earlier).filterMap Part.own? =
          occurrence.recorded place earlier := by
        cases occurrence with
        | binding text position kind =>
            simp [Occurrence.parts, List.filterMap_map, Function.comp_def, Part.own?]
        | declaration names => rfl
        | scope kind name line inside => rfl
      rw [partsOf, recorded, List.filterMap_append, ownEq, ih]

theorem flatMap_bindings_partsOf (earlier occurrences : List Occurrence) :
    (partsOf place earlier occurrences).flatMap Part.bindings =
      gathered place earlier occurrences := by
  induction occurrences generalizing earlier with
  | nil => rfl
  | cons occurrence later ih =>
      have bindingsEq : (occurrence.parts place earlier).flatMap Part.bindings =
          occurrence.gathered place earlier := by
        cases occurrence with
        | binding text position kind =>
            simp [Occurrence.parts, List.flatMap_map, Part.bindings, Occurrence.gathered]
        | declaration names => rfl
        | scope kind name line inside => exact List.append_nil _
      rw [partsOf, gathered, List.flatMap_append, bindingsEq, ih]

/-- The scopes that are opened at any depth are those inside the ones that are opened
directly, with these at the end of each. -/
theorem flatMap_scopes_partsOf (earlier occurrences : List Occurrence) :
    ((partsOf place earlier occurrences).filterMap Part.inner?).flatMap SourceScope.scopes =
      scopesOf place occurrences := by
  induction occurrences generalizing earlier with
  | nil => rfl
  | cons occurrence later ih =>
      have scopesEq : ((occurrence.parts place earlier).filterMap Part.inner?).flatMap
          SourceScope.scopes = occurrence.scopes place := by
        cases occurrence with
        | binding text position kind =>
            simp [Occurrence.parts, List.filterMap_map, Function.comp_def, Part.inner?,
              Occurrence.scopes]
        | declaration names => rfl
        | scope kind name line inside => exact List.append_nil _
      rw [partsOf, scopesOf, List.filterMap_append, List.flatMap_append, scopesEq, ih]

/-! ### Nothing is lost or doubled -/

theorem recorded_sublist_gathered (earlier occurrences : List Occurrence) :
    (recorded place earlier occurrences).Sublist (gathered place earlier occurrences) := by
  induction occurrences generalizing earlier with
  | nil => exact List.Sublist.refl _
  | cons occurrence later ih =>
      refine List.Sublist.append ?_ (ih (occurrence :: earlier))
      cases occurrence with
      | binding text position kind => exact List.Sublist.refl _
      | declaration names => exact List.Sublist.refl _
      | scope kind name line inside => exact List.nil_sublist _

mutual

/-- An occurrence contributes what its scope records of it and what the scopes inside it
record. -/
theorem Occurrence.gathered_perm (occurrence : Occurrence) (place : ScopePlace)
    (earlier : List Occurrence) :
    (occurrence.gathered place earlier).Perm
      (occurrence.recorded place earlier ++
        (occurrence.scopes place).flatMap (SourceScope.bindings false)) := by
  cases occurrence with
  | binding text position kind =>
      exact List.Perm.of_eq (List.append_nil _).symm
  | declaration names => exact List.Perm.nil
  | scope kind name line inside =>
      have insidePerm := gathered_perm inside (place.inner kind name line) []
      simp only [Occurrence.gathered, Occurrence.recorded, Occurrence.scopes, List.nil_append,
        List.flatMap_append]
      refine insidePerm.trans (List.perm_append_comm.trans ?_)
      exact List.Perm.of_eq (by simp [SourceScope.bindings])

theorem gathered_perm (occurrences : List Occurrence) (place : ScopePlace)
    (earlier : List Occurrence) :
    (gathered place earlier occurrences).Perm
      (recorded place earlier occurrences ++
        (scopesOf place occurrences).flatMap (SourceScope.bindings false)) := by
  cases occurrences with
  | nil => exact List.Perm.nil
  | cons occurrence later =>
      have firstPerm := Occurrence.gathered_perm occurrence place earlier
      have laterPerm := gathered_perm later place (occurrence :: earlier)
      rw [gathered, recorded, scopesOf, List.flatMap_append]
      refine (firstPerm.append laterPerm).trans ?_
      simp only [List.append_assoc]
      exact (List.perm_append_comm_assoc _ _ _).append_left _

end

end

/-! ### A whole source -/

/-- A scope gathers what it and all scopes inside it record, each binding once. -/
theorem SourceScope.bindings_perm (scope : SourceScope) :
    (scope.bindings true).Perm (scope.scopes.flatMap (SourceScope.bindings false)) := by
  have perm := (gathered_perm scope.course scope.place []).trans List.perm_append_comm
  simpa [SourceScope.scopes, SourceScope.bindings] using perm

/-- A source is harvested with and without propagation in the same scopes.  What a scope has
with propagation is what it has without, in order, and in between, where a scope directly
inside is complete, all that this one has; so it has the names of all scopes inside it, each
binding once, and the outermost scope has all names of the source. -/
theorem completed_eq_flatMap_parts {room : Nat} {propagates : Bool} {filePath : String}
    {statements : List Tree} {walk : Walk}
    (walked : Harvester.walkModule room propagates filePath statements = .ok walk) :
    ∃ flat nested,
      Harvester.walkModule room false filePath statements = .ok flat ∧
        Harvester.walkModule room true filePath statements = .ok nested ∧
        (∀ parse source, parse source.toList = .ok statements →
          let runtime : Runtime := { parse := parse, room := room }
          (harvestSourceIn runtime false source filePath).outcome = .ok flat.completed.reverse ∧
            (harvestSourceIn runtime true source filePath).outcome =
              .ok nested.completed.reverse) ∧
        flat.completed.reverse =
          (moduleScopes filePath statements).map (SourceScope.harvested false) ∧
        nested.completed.reverse =
          (moduleScopes filePath statements).map (SourceScope.harvested true) ∧
        (∀ scope ∈ moduleScopes filePath statements,
          scope.bindings false = scope.parts.filterMap Part.own? ∧
            scope.bindings true = scope.parts.flatMap Part.bindings ∧
            scope.scopes =
              (scope.parts.filterMap Part.inner?).flatMap SourceScope.scopes ++ [scope] ∧
            (scope.bindings true).Perm (scope.scopes.flatMap (SourceScope.bindings false)) ∧
            (scope.bindings false).Sublist (scope.bindings true)) ∧
        ∃ last,
          nested.completed.reverse.getLast? = some last ∧
            last.bindings.Perm (flat.completed.reverse.flatMap (·.bindings)) := by
  obtain ⟨walkable, -⟩ := walkModule_eq_ok_iff.mp walked
  have walkedAs (mode : Bool) : Harvester.walkModule room mode filePath statements =
      .ok (completeWalk mode filePath statements) :=
    walkModule_eq_ok_iff.mpr ⟨walkable, rfl⟩
  refine ⟨completeWalk false filePath statements, completeWalk true filePath statements,
    walkedAs false, walkedAs true, fun parse source parsed =>
      ⟨outcome_harvestSourceIn parsed (walkedAs false),
        outcome_harvestSourceIn parsed (walkedAs true)⟩,
    List.reverse_reverse _, List.reverse_reverse _, fun scope _ => ⟨?_, ?_, ?_, ?_, ?_⟩,
    (moduleScope filePath statements).harvested true, ?_, ?_⟩
  · exact (filterMap_own?_partsOf scope.place [] scope.course).symm
  · exact (flatMap_bindings_partsOf scope.place [] scope.course).symm
  · rw [SourceScope.parts, flatMap_scopes_partsOf]
    rfl
  · exact scope.bindings_perm
  · exact recorded_sublist_gathered scope.place [] scope.course
  · simp [completeWalk, moduleScopes]
  · have perm := (moduleScope filePath statements).bindings_perm
    simpa [completeWalk, moduleScopes, List.flatMap_map, SourceScope.harvested,
      SourceScope.scopes, moduleScope] using perm

theorem completed_eq_flatMap_parts_of_nested :
    ∃ flat nested,
      Harvester.walkModule Runtime.standard.room false unnamedSource nestedStatements = .ok flat ∧
        Harvester.walkModule Runtime.standard.room true unnamedSource nestedStatements =
          .ok nested ∧
        flat.completed.reverse.map (fun scope => scope.bindings.map (·.text)) =
          [[], ["x", "a"], ["a", "b", "Inner", "x"], ["c", "outer"]] ∧
        nested.completed.reverse.map (fun scope => scope.bindings.map (·.text)) =
          [[], ["x", "a"], ["a", "b", "Inner", "x", "a", "x"],
            ["c", "outer", "a", "b", "Inner", "x", "a", "x"]] := by
  have walked : Harvester.walkModule Runtime.standard.room true unnamedSource nestedStatements =
      .ok (completeWalk true unnamedSource nestedStatements) := by rfl
  obtain ⟨flat, nested, flatWalked, nestedWalked, -, flatEq, nestedEq, -⟩ :=
    completed_eq_flatMap_parts walked
  refine ⟨flat, nested, flatWalked, nestedWalked, ?_, ?_⟩
  · rw [flatEq]
    decide
  · rw [nestedEq]
    decide

end Lookalike
