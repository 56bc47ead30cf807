import Lookalike.Proofs.Harvest.Bindings
import Lookalike.Proofs.Harvest.Outcome
import Lookalike.Proofs.Harvest.Propagation
import Lookalike.Proofs.Source.Statement

/-!
# All that is harvested is named

Every text that a scope of a source binds is a name, since the trees of the source have names where
names stand, and what happens in a scope is read off the trees.  Names that inner scopes hand on are
names that these record.
-/

namespace Lookalike

open Source

/-! ### Occurrences -/

mutual

/-- Whether an occurrence binds only names, in its scope or inside. -/
def Occurrence.IsWellNamed : Occurrence → Prop
  | .binding text _ _ => IsName text
  | .declaration _ => True
  | .scope _ _ _ inside => areWellNamed inside

/-- Whether occurrences bind only names. -/
def areWellNamed : List Occurrence → Prop
  | [] => True
  | occurrence :: later => occurrence.IsWellNamed ∧ areWellNamed later

end

instance : NameBearer Occurrence := ⟨Occurrence.IsWellNamed⟩

theorem areWellNamed_iff {occurrences : List Occurrence} :
    areWellNamed occurrences ↔ WellNamed occurrences := by
  induction occurrences with
  | nil => simp [areWellNamed]
  | cons occurrence later ih =>
      rw [areWellNamed, ih, wellNamed_cons]
      rfl

section

variable {text name : String} {position : Position} {kind : BindingKind} {scopeKind : ScopeKind}
  {line : ℕ} {names : List String} {inside : List Occurrence}

@[simp]
theorem wellNamed_binding :
    WellNamed (Occurrence.binding text position kind) ↔ WellNamed text := by
  rfl

@[simp]
theorem wellNamed_declaration : WellNamed (Occurrence.declaration names) := trivial

@[simp]
theorem wellNamed_scope :
    WellNamed (Occurrence.scope scopeKind name line inside) ↔ WellNamed inside :=
  areWellNamed_iff

end

theorem wellNamed_map_binding {Given : Type} {text : Given → String} {position : Given → Position}
    {kind : BindingKind} {given : List Given} (named : ∀ one ∈ given, WellNamed (text one)) :
    WellNamed (given.map fun one => Occurrence.binding (text one) (position one) kind) := by
  intro occurrence mem
  rcases List.mem_map.mp mem with ⟨one, oneMem, rfl⟩
  exact named one oneMem

theorem wellNamed_parameters_occurrences {parameters : Parameters}
    (named : WellNamed parameters) : WellNamed parameters.occurrences := by
  rcases named with ⟨positionalOnly, positional, keywordOnly, variadic, keywords⟩
  have allNamed : WellNamed (parameters.positionalOnly ++ parameters.positional ++
      parameters.keywordOnly ++ parameters.variadic.toList ++ parameters.keywords.toList) := by
    simp [positionalOnly, positional, keywordOnly, variadic, keywords]
  exact wellNamed_map_binding allNamed

mutual

theorem wellNamed_occurrences {tree : Tree} (named : WellNamed tree) :
    WellNamed tree.occurrences := by
  cases tree with
  | identifier name position stored =>
      rw [Tree.occurrences]
      split
      · simpa using named
      · exact wellNamed_nil
  | compound construct parts =>
      exact wellNamed_occurrencesOf (Tree.wellNamed_compound.mp named)
  | function name position decorators parameters defaults annotations body =>
      rcases Tree.wellNamed_function.mp named with
        ⟨nameNamed, decoratorsNamed, parametersNamed, defaultsNamed, -, bodyNamed⟩
      simp [Tree.occurrences, nameNamed, wellNamed_occurrencesOf decoratorsNamed,
        wellNamed_occurrencesOf defaultsNamed, wellNamed_occurrencesOf bodyNamed,
        wellNamed_parameters_occurrences parametersNamed]
  | lambda position parameters defaults body =>
      rcases Tree.wellNamed_lambda.mp named with ⟨parametersNamed, defaultsNamed, bodyNamed⟩
      simp [Tree.occurrences, wellNamed_occurrencesOf defaultsNamed,
        wellNamed_occurrences bodyNamed, wellNamed_parameters_occurrences parametersNamed]
  | classDefinition name position decorators bases keywordValues body =>
      rcases Tree.wellNamed_classDefinition.mp named with
        ⟨nameNamed, decoratorsNamed, basesNamed, valuesNamed, bodyNamed⟩
      simp [Tree.occurrences, nameNamed, wellNamed_occurrencesOf decoratorsNamed,
        wellNamed_occurrencesOf basesNamed, wellNamed_occurrencesOf valuesNamed,
        wellNamed_occurrencesOf bodyNamed]
  | handler alias? position parts =>
      rcases Tree.wellNamed_handler.mp named with ⟨aliasNamed, partsNamed⟩
      exact wellNamed_append.mpr
        ⟨wellNamed_map_binding (wellNamed_toList.mpr aliasNamed),
          wellNamed_occurrencesOf partsNamed⟩
  | importation aliases position =>
      exact wellNamed_map_binding (Tree.wellNamed_importation.mp named)
  | declaration names => simp [Tree.occurrences]
  | capture name? position parts =>
      rcases Tree.wellNamed_capture.mp named with ⟨nameNamed, partsNamed⟩
      exact wellNamed_append.mpr
        ⟨wellNamed_occurrencesOf partsNamed,
          wellNamed_map_binding (wellNamed_toList.mpr nameNamed)⟩

theorem wellNamed_occurrencesOf {trees : List Tree} (named : WellNamed trees) :
    WellNamed (occurrencesOf trees) := by
  cases trees with
  | nil => exact wellNamed_nil
  | cons tree trees =>
      rw [wellNamed_cons] at named
      exact wellNamed_append.mpr
        ⟨wellNamed_occurrences named.1, wellNamed_occurrencesOf named.2⟩

end

/-! ### Scopes -/

instance : NameBearer Binding := ⟨fun binding => IsName binding.text⟩

instance : NameBearer SourceScope := ⟨fun scope => WellNamed scope.course⟩

instance : NameBearer HarvestedScope := ⟨fun scope => WellNamed scope.bindings⟩

theorem wellNamed_recorded {place : ScopePlace} {earlier occurrences : List Occurrence}
    (named : WellNamed occurrences) : WellNamed (recorded place earlier occurrences) := by
  intro binding mem
  rcases mem_recorded_iff.mp mem with
    ⟨before, text, position, kind, later, rfl, -, -, rfl⟩
  exact named (.binding text position kind) (by simp)

mutual

theorem wellNamed_scopes {occurrence : Occurrence} (named : WellNamed occurrence)
    (place : ScopePlace) : WellNamed (occurrence.scopes place) := by
  cases occurrence with
  | binding text position kind => exact wellNamed_nil
  | declaration names => exact wellNamed_nil
  | scope kind name line inside =>
      rw [wellNamed_scope] at named
      exact wellNamed_append.mpr
        ⟨wellNamed_scopesOf named _, wellNamed_cons.mpr ⟨named, wellNamed_nil⟩⟩

theorem wellNamed_scopesOf {occurrences : List Occurrence} (named : WellNamed occurrences)
    (place : ScopePlace) : WellNamed (scopesOf place occurrences) := by
  cases occurrences with
  | nil => exact wellNamed_nil
  | cons occurrence later =>
      rw [wellNamed_cons] at named
      exact wellNamed_append.mpr
        ⟨wellNamed_scopes named.1 place, wellNamed_scopesOf named.2 place⟩

end

/-- What a scope has of names comes from itself and from the scopes inside it. -/
theorem wellNamed_harvested {scope : SourceScope} (named : WellNamed scope) (propagates : Bool) :
    WellNamed (scope.harvested propagates) := by
  have own {scope : SourceScope} (named : WellNamed scope) : WellNamed (scope.bindings false) :=
    wellNamed_recorded named
  cases propagates with
  | false => exact own named
  | true =>
      intro binding mem
      rw [SourceScope.harvested, scope.bindings_perm.mem_iff, List.mem_flatMap] at mem
      rcases mem with ⟨inner, innerMem, bindingMem⟩
      have allNamed : WellNamed scope.scopes :=
        wellNamed_append.mpr
          ⟨wellNamed_scopesOf named scope.place, wellNamed_cons.mpr ⟨named, wellNamed_nil⟩⟩
      exact own (allNamed inner innerMem) binding bindingMem

theorem wellNamed_moduleScopes {statements : List Tree} (named : WellNamed statements)
    (filePath : String) : WellNamed (moduleScopes filePath statements) := by
  have courseNamed : WellNamed (occurrencesOf statements) := wellNamed_occurrencesOf named
  exact wellNamed_append.mpr
    ⟨wellNamed_scopesOf courseNamed _, wellNamed_cons.mpr ⟨courseNamed, wellNamed_nil⟩⟩

/-! ### Sources and files -/

theorem wellNamed_of_parseSource {letters : List Char} {statements : List Tree}
    (parsed : parseSource letters = .ok statements) : WellNamed statements := by
  rw [parseSource] at parsed
  split_ifs at parsed
  cases read : readSource letters with
  | error fault =>
      rw [read] at parsed
      cases fault <;> cases parsed
  | ok statements' =>
      simp only [read] at parsed
      split_ifs at parsed
      cases parsed
      exact yields_readSource _ _ read

theorem wellNamed_sourceScopes {source filePath : String} {scopes : List SourceScope}
    (harvested : sourceScopes source filePath = .ok scopes) : WellNamed scopes := by
  rw [sourceScopes] at harvested
  cases parsed : parseSource source.toList with
  | error fault =>
      rw [parsed] at harvested
      cases fault <;> cases harvested
      exact wellNamed_nil
  | ok statements =>
      simp only [parsed] at harvested
      split_ifs at harvested
      cases harvested
      exact wellNamed_moduleScopes (wellNamed_of_parseSource parsed) filePath

/-- All that is harvested from a file is named. -/
theorem wellNamed_scopes_harvestFile (propagates : Bool) (tree : FileTree) (path : Path) :
    WellNamed (harvestFile propagates tree path).scopes := by
  rw [scopes_harvestFile]
  intro scope mem
  rcases List.mem_map.mp mem with ⟨source, sourceMem, rfl⟩
  cases found : fileScopes tree path with
  | error error => simp [found, Except.toOption] at sourceMem
  | ok sources =>
      have sourcesNamed : WellNamed sources := by
        simp only [fileScopes] at found
        split at found
        · exact wellNamed_sourceScopes found
        · cases found
      rw [found] at sourceMem
      exact wellNamed_harvested (sourcesNamed source sourceMem) propagates

end Lookalike
