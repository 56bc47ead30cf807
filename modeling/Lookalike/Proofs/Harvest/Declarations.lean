import Lookalike.Proofs.Harvest.Outcome
import Lookalike.Proofs.Harvest.Bindings
import Lookalike.Proofs.Harvest.Propagation

/-!
# Names that are declared to belong elsewhere

A scope that declares a text before it binds it leaves the binding to another scope.  No
scope takes it over: a text is harvested just if some scope binds it as its own, and without
propagation the outermost scope has it only if it is this scope that does.  So a name that
is bound nowhere but below a declaration is lost, even if the outermost scope declares it
for itself.
-/

namespace Lookalike

open Source

/-! ### Bindings before and after a declaration -/

namespace Occurrence

/-- Whether an occurrence binds a text. -/
def binds (text : String) : Occurrence → Bool
  | binding bound _ _ => bound == text
  | declaration _ => false
  | scope _ _ _ _ => false

/-- Whether an occurrence declares that a text belongs elsewhere. -/
def declares (text : String) : Occurrence → Bool
  | binding _ _ _ => false
  | declaration names => names.contains text
  | scope _ _ _ _ => false

theorem mentions_eq (text : String) (occurrence : Occurrence) :
    occurrence.mentions text = (occurrence.binds text || occurrence.declares text) := by
  cases occurrence <;> simp [mentions, binds, declares]

end Occurrence

/-- Whether a text is bound in a scope with no declaration before. -/
def bindsAsOwn (text : String) : List Occurrence → Bool
  | [] => false
  | occurrence :: later =>
      occurrence.binds text || (!occurrence.declares text && bindsAsOwn text later)

/-- Whether a text is bound in a scope after a declaration that it belongs elsewhere. -/
def bindsAsDeclared (text : String) : List Occurrence → Bool
  | [] => false
  | occurrence :: later =>
      (occurrence.declares text && later.any (·.binds text)) || bindsAsDeclared text later

section

variable {place : ScopePlace} {text : String}

theorem Occurrence.mem_map_text_recorded_iff {earlier : List Occurrence}
    {occurrence : Occurrence} :
    text ∈ (occurrence.recorded place earlier).map (·.text) ↔
      text ≠ "" ∧ (∀ before ∈ earlier, before.mentions text = false) ∧
        occurrence.binds text = true := by
  constructor
  · intro mem
    obtain ⟨binding, bindingMem, rfl⟩ := List.mem_map.mp mem
    obtain ⟨text, position, kind, rfl, nonempty, fresh, rfl⟩ := mem_recorded_iff.mp bindingMem
    exact ⟨nonempty, fresh, beq_self_eq_true text⟩
  · rintro ⟨nonempty, fresh, bound⟩
    cases occurrence with
    | binding bound' position kind =>
        obtain rfl := beq_iff_eq.mp bound
        exact List.mem_map.mpr ⟨_, mem_recorded_iff.mpr
          ⟨_, position, kind, rfl, nonempty, fresh, rfl⟩, rfl⟩
    | declaration names => cases bound
    | scope kind name line inside => cases bound

/-- A scope records the texts that it binds as its own. -/
theorem mem_map_text_recorded_iff {earlier course : List Occurrence} :
    text ∈ (recorded place earlier course).map (·.text) ↔
      text ≠ "" ∧ (∀ before ∈ earlier, before.mentions text = false) ∧
        bindsAsOwn text course = true := by
  induction course generalizing earlier with
  | nil => simp [recorded, bindsAsOwn]
  | cons occurrence later ih =>
      rw [recorded, List.map_append, List.mem_append, Occurrence.mem_map_text_recorded_iff, ih,
        List.forall_mem_cons, Occurrence.mentions_eq, bindsAsOwn]
      cases occurrence.binds text <;> cases occurrence.declares text <;> simp

end

/-! ### Scopes inside scopes -/

mutual

theorem Occurrence.scopes_subset (occurrence : Occurrence) (place : ScopePlace) :
    ∀ scope ∈ occurrence.scopes place, scope.scopes ⊆ occurrence.scopes place := by
  intro scope mem
  cases occurrence with
  | binding text position kind => exact absurd mem List.not_mem_nil
  | declaration names => exact absurd mem List.not_mem_nil
  | scope kind name line inside =>
      rcases List.mem_append.mp mem with mem | mem
      · exact List.Subset.trans (scopes_subset_scopesOf inside _ scope mem)
          (List.subset_append_left _ _)
      · rw [List.mem_singleton.mp mem]
        exact List.Subset.refl _

theorem scopes_subset_scopesOf (course : List Occurrence) (place : ScopePlace) :
    ∀ scope ∈ scopesOf place course, scope.scopes ⊆ scopesOf place course := by
  intro scope mem
  cases course with
  | nil => exact absurd mem List.not_mem_nil
  | cons occurrence later =>
      rcases List.mem_append.mp mem with mem | mem
      · exact List.Subset.trans (Occurrence.scopes_subset occurrence place scope mem)
          (List.subset_append_left _ _)
      · exact List.Subset.trans (scopes_subset_scopesOf later place scope mem)
          (List.subset_append_right _ _)

end

theorem scopes_subset_moduleScopes {filePath : String} {statements : List Tree}
    {scope : SourceScope} (mem : scope ∈ moduleScopes filePath statements) :
    scope.scopes ⊆ moduleScopes filePath statements := by
  rcases List.mem_append.mp mem with mem | mem
  · exact List.Subset.trans (scopes_subset_scopesOf _ _ scope mem) (List.subset_append_left _ _)
  · rw [List.mem_singleton.mp mem]
    exact List.Subset.refl _

namespace SourceScope

variable {scope : SourceScope} {text : String}

theorem mem_map_text_bindings_false (nonempty : text ≠ "") :
    text ∈ (scope.bindings false).map (·.text) ↔ bindsAsOwn text scope.course = true := by
  have recordedIff : text ∈ (scope.bindings false).map (·.text) ↔ _ := mem_map_text_recorded_iff
  simpa [nonempty] using recordedIff

theorem mem_map_text_bindings_true (nonempty : text ≠ "") :
    text ∈ (scope.bindings true).map (·.text) ↔
      ∃ inner ∈ scope.scopes, bindsAsOwn text inner.course = true := by
  rw [(scope.bindings_perm.map _).mem_iff, List.map_flatMap, List.mem_flatMap]
  simp only [mem_map_text_bindings_false nonempty]

end SourceScope

/-! ### A whole source -/

/-- The names of a source's scopes are the texts that some scope binds as its own. -/
theorem exists_mem_map_text_bindings_iff (propagates : Bool) {filePath : String}
    {statements : List Tree} {text : String} (nonempty : text ≠ "") :
    (∃ scope ∈ moduleScopes filePath statements,
        text ∈ (scope.bindings propagates).map (·.text)) ↔
      ∃ scope ∈ moduleScopes filePath statements, bindsAsOwn text scope.course = true := by
  cases propagates with
  | false => simp only [SourceScope.mem_map_text_bindings_false nonempty]
  | true =>
      simp only [SourceScope.mem_map_text_bindings_true nonempty]
      constructor
      -- A name that is handed on is recorded by an inner scope, itself a scope of the source.
      · rintro ⟨scope, scopeMem, inner, innerMem, own⟩
        exact ⟨inner, scopes_subset_moduleScopes scopeMem innerMem, own⟩
      · rintro ⟨scope, scopeMem, own⟩
        exact ⟨scope, scopeMem, scope, List.mem_append_right _ List.mem_cons_self, own⟩

/-- The outermost scope of a source has a name just if it binds the name as its own, or, when
inner scopes hand on theirs, any scope does.  A name is in no collection at all just if no
scope binds it as its own, whatever scopes bind it after declaring it. -/
theorem harvested_iff_bindsAsOwn {room : Nat} {propagates : Bool} {filePath : String}
    {statements : List Tree} {walk : Walk}
    (walked : Harvester.walkModule room propagates filePath statements = .ok walk) :
    (∀ parse source, parse source.toList = .ok statements →
        (harvestSourceIn { parse := parse, room := room } propagates source filePath).outcome =
          .ok walk.completed.reverse) ∧
      ∃ outermost,
        walk.completed.reverse.getLast? = some outermost ∧
          outermost.place = modulePlace filePath ∧
          ∀ text, text ≠ "" →
            (text ∈ outermost.bindings.map (·.text) ↔
                if propagates then
                  ∃ scope ∈ moduleScopes filePath statements, bindsAsOwn text scope.course = true
                else bindsAsOwn text (occurrencesOf statements) = true) ∧
              ((∃ collection ∈ walk.completed.reverse,
                  text ∈ collection.bindings.map (·.text)) ↔
                ∃ scope ∈ moduleScopes filePath statements,
                  bindsAsOwn text scope.course = true) := by
  have complete := (walkModule_eq_ok_iff.mp walked).2
  have completedEq : walk.completed.reverse =
      (moduleScopes filePath statements).map (SourceScope.harvested propagates) := by
    rw [complete, completeWalk, List.reverse_reverse]
  refine ⟨fun parse source parsed => outcome_harvestSourceIn parsed walked,
    (moduleScope filePath statements).harvested propagates, ?_, rfl, fun text nonempty =>
      ⟨?_, ?_⟩⟩
  · rw [completedEq]
    simp [moduleScopes]
  · cases propagates with
    | false => exact SourceScope.mem_map_text_bindings_false nonempty
    | true => exact SourceScope.mem_map_text_bindings_true nonempty
  · rw [← exists_mem_map_text_bindings_iff propagates nonempty, completedEq]
    simp [SourceScope.harvested]

/-- The function declares `g` and binds it, and no scope binds it otherwise. -/
theorem harvested_iff_bindsAsOwn_of_nested :
    ∃ walk,
      Harvester.walkModule Runtime.standard.room true unnamedSource nestedStatements = .ok walk ∧
        ((moduleScopes unnamedSource nestedStatements).any fun scope =>
          bindsAsDeclared "g" scope.course) = true ∧
        (¬∃ collection ∈ walk.completed.reverse, "g" ∈ collection.bindings.map (·.text)) ∧
        ∃ collection ∈ walk.completed.reverse, "x" ∈ collection.bindings.map (·.text) := by
  have walked : Harvester.walkModule Runtime.standard.room true unnamedSource nestedStatements =
      .ok (completeWalk true unnamedSource nestedStatements) := by rfl
  obtain ⟨-, outermost, -, -, harvestedIff⟩ := harvested_iff_bindsAsOwn walked
  refine ⟨_, walked, by decide, ?_, ?_⟩
  · rw [(harvestedIff "g" (by decide)).2]
    decide
  · rw [(harvestedIff "x" (by decide)).2]
    decide

/-! ### A name that is lost -/

/-- A function that declares a name to be global and binds it. -/
def declaringSource : String := "def f():\n    global x\n    x = 1\n"

def declaringScopes : List SourceScope :=
  (sourceScopes declaringSource unnamedSource).toOption.getD []

theorem sourceScopes_declaringSource :
    sourceScopes declaringSource unnamedSource = .ok declaringScopes := by
  have parsed : (sourceScopes declaringSource unnamedSource).isOk = true := by
    decide +kernel
  rw [declaringScopes]
  generalize sourceScopes declaringSource unnamedSource = scopes at parsed
  cases scopes with
  | error error => cases parsed
  | ok scopes => rfl

/-- The global name is bound after its declaration, and no collection has it. -/
theorem global_name_lost :
    (∃ scope ∈ declaringScopes, bindsAsDeclared "x" scope.course = true) ∧
      ∀ propagates, ∃ collections,
        (harvestSource propagates declaringSource unnamedSource).outcome = .ok collections ∧
          ¬∃ collection ∈ collections, "x" ∈ collection.bindings.map (·.text) := by
  have declared : (declaringScopes.any fun scope => bindsAsDeclared "x" scope.course) = true := by
    decide +kernel
  have unharvested (propagates : Bool) :
      (declaringScopes.all fun scope =>
        !((scope.bindings propagates).map (·.text)).contains "x") = true := by
    cases propagates <;> decide +kernel
  refine ⟨List.any_eq_true.mp declared, fun propagates =>
    ⟨declaringScopes.map (SourceScope.harvested propagates), ?_, ?_⟩⟩
  · rw [outcome_harvestSource_eq_map, sourceScopes_declaringSource]
    rfl
  · simpa [SourceScope.harvested] using unharvested propagates

end Lookalike
