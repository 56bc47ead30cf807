import Lookalike.Proofs.Matching.Pruning
import Mathlib.Data.List.Basic

/-!
# Names that cannot be matched

A name whose text has no length ends the matching of its scope as soon as a pair has it, before
that pair is scored or pruned.  All pairs of the first name come before those of the second, and
so on, so the first fault that is met is that of the first such name in the list, wherever it
stands and however many there are.  With fewer than two names there is no pair to meet it.
-/

namespace Lookalike

/-! ### The first fault of all pairs -/

section

variable {Given Result Fault : Type}

theorem mapM_eq_error_iff {step : Given → Except Fault Result} {fault? : Given → Option Fault}
    (faultIff : ∀ one fault, step one = .error fault ↔ fault? one = some fault)
    {given : List Given} {fault : Fault} :
    given.mapM step = .error fault ↔ given.findSome? fault? = some fault := by
  induction given with
  | nil => simp [pure, Except.pure]
  | cons one given ih =>
      rw [List.mapM_cons, List.findSome?_cons]
      cases stepped : step one with
      | error fault' =>
          rw [(faultIff one fault').mp stepped]
          simp [bind, Except.bind]
      | ok result =>
          have noFault : fault? one = none := by
            rw [Option.eq_none_iff_forall_not_mem]
            intro fault' mem
            rw [(faultIff one fault').mpr mem] at stepped
            cases stepped
          rw [noFault, ← ih]
          cases given.mapM step <;> simp [bind, Except.bind, pure, Except.pure]

/-- If pairs are looked through for the fault of their first members and then of their second
ones, the first fault that is found is that of the first faulty member. -/
theorem findSome?_pairs (fault? : Given → Option Fault) (members : List Given) :
    (pairs members).findSome? (fun pair => (fault? pair.1).or (fault? pair.2)) =
      if 2 ≤ members.length then members.findSome? fault? else none := by
  induction members with
  | nil => rfl
  | cons member members ih =>
      rw [pairs, List.findSome?_append, List.findSome?_map, ih]
      cases found : fault? member with
      | some fault => cases members <;> simp [found]
      | none =>
          -- No pair of this member faults but by its second one, so that these pairs find all
          -- faults there are and the others find nothing new.
          have bySecond : ((fun pair : Given × Given => (fault? pair.1).or (fault? pair.2)) ∘
              fun later => (member, later)) = fault? := by
            funext later
            simp [found]
          rw [bySecond, List.findSome?_cons, found]
          cases members with
          | nil => rfl
          | cons second members => split_ifs <;> simp_all

end

/-! ### Faults of names -/

/-- What is wrong with a text that has no length. -/
def NameText.fault? : NameText → Option MatchFault
  | .letters _ => none
  | .unsized value => some ⟨value.typeName⟩

theorem NameText.fault?_eq_some_iff {text : NameText} {fault : MatchFault} :
    text.fault? = some fault ↔ ∃ value, text = .unsized value ∧ fault = ⟨value.typeName⟩ := by
  cases text <;> simp [fault?, eq_comm]

theorem Name.isLettered_iff {name : Name} : name.IsLettered ↔ name.text.fault? = none := by
  rw [IsLettered]
  cases name.text <;> simp [NameText.fault?]

theorem judge_eq_error_iff {threshold : Threshold} (pair : Name × Name) (fault : MatchFault) :
    judge threshold pair = .error fault ↔
      pair.1.text.fault?.or pair.2.text.fault? = some fault := by
  rw [judge]
  cases pair.1.text <;> cases pair.2.text <;>
    simp [NameText.measured, NameText.fault?, bind, Except.bind, pure, Except.pure]

theorem matchNames_eq_error_iff {threshold : Threshold} {names : List Name}
    {fault : MatchFault} :
    matchNames threshold names = .error fault ↔
      2 ≤ names.length ∧ names.findSome? (·.text.fault?) = some fault := by
  have judged : (pairs names).mapM (judge threshold) = .error fault ↔
      (pairs names).findSome? _ = some fault := mapM_eq_error_iff judge_eq_error_iff
  have ended : matchNames threshold names = .error fault ↔
      (pairs names).mapM (judge threshold) = .error fault := by
    rw [matchNames]
    cases (pairs names).mapM (judge threshold) <;>
      simp [bind, Except.bind, pure, Except.pure]
  rw [ended, judged, findSome?_pairs fun name : Name => name.text.fault?]
  split_ifs with enough <;> simp [enough]

theorem findSome?_fault?_eq_some_iff {names : List Name} {fault : MatchFault} :
    names.findSome? (·.text.fault?) = some fault ↔
      ∃ before name after value, names = before ++ name :: after ∧
        (∀ earlier ∈ before, earlier.IsLettered) ∧ name.text = .unsized value ∧
        fault = ⟨value.typeName⟩ := by
  simp only [List.findSome?_eq_some_iff, NameText.fault?_eq_some_iff, Name.isLettered_iff]
  constructor
  · rintro ⟨before, name, after, namesEq, ⟨value, textEq, faultEq⟩, noFault⟩
    exact ⟨before, name, after, value, namesEq, noFault, textEq, faultEq⟩
  · rintro ⟨before, name, after, value, namesEq, noFault, textEq, faultEq⟩
    exact ⟨before, name, after, namesEq, ⟨value, textEq, faultEq⟩, noFault⟩

theorem exists_findSome?_fault?_iff {names : List Name} :
    (∃ fault, names.findSome? (·.text.fault?) = some fault) ↔
      ∃ name ∈ names, ¬name.IsLettered := by
  rw [← Option.isSome_iff_exists, List.isSome_findSome?, List.any_eq_true]
  simp only [Name.isLettered_iff, Option.isSome_iff_ne_none, ne_eq]

/-! ### Matchers -/

namespace Matcher

theorem perform_eq_error_iff {matcher : Matcher} {collection : Collection} {error : MatchError} :
    (matcher.perform collection).1 = .error error ↔
      ∃ fault, matchNames matcher.threshold collection.names = .error fault ∧
        error = .unmatchable collection.scope fault := by
  rw [perform, matchCollection]
  cases matchNames matcher.threshold collection.names <;>
    simp [Except.mapError, eq_comm]

/-- The threshold of a matcher is one that a matcher can be made with again. -/
theorem new_number (matcher : Matcher) :
    new (.float matcher.threshold.number) = .ok matcher := by
  obtain ⟨⟨value, positive, le_one⟩⟩ := matcher
  have bounds : 0 < value ∧ value ≤ 1 := ⟨positive, le_one⟩
  simp [new, Json.float, Threshold.ofJson, Threshold.ofNumber, Threshold.number,
    Number.toFloat?, Binary64.toRat?, bounds, bind, Except.bind, pure, Except.pure]

theorem performAll_eq_map (matcher : Matcher) (collections : List Collection) :
    matcher.performAll collections =
      collections.map fun collection => (matcher.perform collection).1 := by
  induction collections with
  | nil => rfl
  | cons collection collections ih => rw [performAll, List.map_cons, ← ih]; rfl

end Matcher

/-- Matching a scope fails just if it has two names or more and one of them has no length.  The
failure is told of the scope with the type of the first such name, whatever else is in the list,
and a matcher deals with each of several scopes as a new one with its threshold does. -/
theorem failure_names_first_unsized (matcher : Matcher) :
    (∀ collection : Collection,
      ((∃ error, (matcher.perform collection).1 = .error error) ↔
        2 ≤ collection.names.length ∧ ∃ name ∈ collection.names, ¬name.IsLettered) ∧
      ∀ error, (matcher.perform collection).1 = .error error →
        ∃ before name after value, collection.names = before ++ name :: after ∧
          (∀ earlier ∈ before, earlier.IsLettered) ∧ name.text = .unsized value ∧
          error = .unmatchable collection.scope ⟨value.typeName⟩ ∧
          error.message = "Failed to match names in scope " ++ collection.scope.literal ++
            ": " ++ ("object of type '" ++ value.typeName ++ "' has no len()")) ∧
      (∀ names : List Name, (Collection.scope { names := names }).literal = "None") ∧
      ∃ fresh, Matcher.new (.float matcher.threshold.number) = .ok fresh ∧
        ∀ collections, matcher.performAll collections =
          collections.map fun collection => (fresh.perform collection).1 := by
  refine ⟨?_, ?_, ?_⟩
  · intro collection
    constructor
    · rw [← exists_findSome?_fault?_iff]
      simp only [Matcher.perform_eq_error_iff, matchNames_eq_error_iff]
      constructor
      · rintro ⟨error, fault, ⟨enough, found⟩, -⟩
        exact ⟨enough, fault, found⟩
      · rintro ⟨enough, fault, found⟩
        exact ⟨_, fault, ⟨enough, found⟩, rfl⟩
    · intro error failed
      obtain ⟨fault, matched, rfl⟩ := Matcher.perform_eq_error_iff.mp failed
      obtain ⟨before, name, after, value, namesEq, lettered, textEq, rfl⟩ :=
        findSome?_fault?_eq_some_iff.mp (matchNames_eq_error_iff.mp matched).2
      exact ⟨before, name, after, value, namesEq, lettered, textEq, rfl, rfl⟩
  · intro names
    simp [Provenance.literal, Provenance.unknown, Json.literal]
  · refine ⟨matcher, matcher.new_number, ?_⟩
    exact matcher.performAll_eq_map

end Lookalike
