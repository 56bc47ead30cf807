import Lookalike.Check
import Lookalike.Proofs.Harvest.Bindings
import Lookalike.Proofs.Harvest.Propagation

/-!
# The names that a scope binds itself

A collection tells the names that its scope binds itself from those that inner scopes have
handed on by the qualified name of the binding scope.  That is enough: the qualified name
of a scope inside another one is always longer than that of the scope around it, whatever
the two are called.  So the count is the same whether inner scopes hand on names or not.
-/

namespace Lookalike

open Source

/-! ### Qualified names of inner scopes -/

theorem length_qualifiedName_lt_inner (place : ScopePlace) (kind : ScopeKind) (name : String)
    (line : Nat) :
    place.qualifiedName.length < (place.inner kind name line).qualifiedName.length := by
  simp only [ScopePlace.inner, String.length_append]
  have dotLength : ".".length = 1 := rfl
  omega

mutual

/-- The scopes of an occurrence have longer qualified names than the scope around it. -/
theorem Occurrence.length_qualifiedName_lt (occurrence : Occurrence) (place : ScopePlace) :
    ∀ scope ∈ occurrence.scopes place,
      place.qualifiedName.length < scope.place.qualifiedName.length := by
  intro scope mem
  cases occurrence with
  | binding text position kind => exact absurd mem List.not_mem_nil
  | declaration names => exact absurd mem List.not_mem_nil
  | scope kind name line inside =>
      have innerLt := length_qualifiedName_lt_inner place kind name line
      rcases List.mem_append.mp mem with mem | mem
      · exact Nat.lt_trans innerLt (length_qualifiedName_lt inside _ scope mem)
      · rw [List.mem_singleton.mp mem]
        exact innerLt

theorem length_qualifiedName_lt (occurrences : List Occurrence) (place : ScopePlace) :
    ∀ scope ∈ scopesOf place occurrences,
      place.qualifiedName.length < scope.place.qualifiedName.length := by
  intro scope mem
  cases occurrences with
  | nil => exact absurd mem List.not_mem_nil
  | cons occurrence later =>
      rcases List.mem_append.mp mem with mem | mem
      · exact Occurrence.length_qualifiedName_lt occurrence place scope mem
      · exact length_qualifiedName_lt later place scope mem

end

/-! ### Counting -/

/-- Whether a binding is made by the scope of a given place, as far as its name tells. -/
def Binding.isOf (place : ScopePlace) (binding : Binding) : Bool :=
  binding.place.scope == place.qualifiedName

theorem ownNames_toCollection (scope : HarvestedScope) :
    scope.toCollection.ownNames = scope.bindings.countP (·.isOf scope.place) := by
  simp only [Collection.ownNames, HarvestedScope.toCollection, List.countP_map]
  rfl

theorem scope_eq_of_mem_recorded {place : ScopePlace} {earlier occurrences : List Occurrence}
    {binding : Binding} (mem : binding ∈ recorded place earlier occurrences) :
    binding.place.scope = place.qualifiedName := by
  obtain ⟨before, text, position, kind, later, -, -, -, rfl⟩ := mem_recorded_iff.mp mem
  rfl

namespace SourceScope

/-- All names that a scope records count as its own. -/
theorem countP_isOf_bindings_false (scope : SourceScope) :
    (scope.bindings false).countP (·.isOf scope.place) = (scope.bindings false).length := by
  rw [List.countP_eq_length]
  intro binding mem
  exact beq_iff_eq.mpr (scope_eq_of_mem_recorded mem)

/-- None of the names that scopes inside a scope record counts as the scope's own. -/
theorem countP_isOf_inner (scope : SourceScope) :
    ((scopesOf scope.place scope.course).flatMap (SourceScope.bindings false)).countP
      (·.isOf scope.place) = 0 := by
  rw [List.countP_eq_zero]
  intro binding mem
  obtain ⟨inner, innerMem, bindingMem⟩ := List.mem_flatMap.mp mem
  -- Names may be repeated and may hold dots; it is by their lengths that qualified names differ.
  have longer := length_qualifiedName_lt scope.course scope.place inner innerMem
  have scopeEq : binding.place.scope = inner.place.qualifiedName :=
    scope_eq_of_mem_recorded bindingMem
  rw [Binding.isOf, scopeEq, beq_iff_eq]
  intro same
  rw [same] at longer
  exact Nat.lt_irrefl _ longer

/-- A collection counts as its own just what its scope records, whether inner scopes hand on
their names or not. -/
theorem ownNames_harvested (propagates : Bool) (scope : SourceScope) :
    (scope.harvested propagates).toCollection.ownNames = (scope.bindings false).length := by
  rw [ownNames_toCollection]
  cases propagates with
  | false => exact scope.countP_isOf_bindings_false
  | true =>
      have perm : (scope.bindings true).Perm _ := scope.bindings_perm
      calc (scope.bindings true).countP (·.isOf scope.place)
        _ = (scope.scopes.flatMap (SourceScope.bindings false)).countP (·.isOf scope.place) :=
            perm.countP_eq _
        _ = (scope.bindings false).length := by
            rw [SourceScope.scopes, List.flatMap_append, List.countP_append,
              scope.countP_isOf_inner, List.flatMap_singleton, Nat.zero_add,
              scope.countP_isOf_bindings_false]

theorem map_ownNames_harvested (propagates : Bool) (sources : List SourceScope) :
    (sources.map (harvested propagates)).map (·.toCollection.ownNames) =
      sources.map fun source => (source.bindings false).length := by
  rw [List.map_map]
  exact List.map_congr_left fun source _ => source.ownNames_harvested propagates

end SourceScope

end Lookalike
