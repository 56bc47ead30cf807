import Lookalike.Proofs.Harvest.Frames
import Mathlib.Tactic.Tauto

/-!
# The names of a scope

Without propagation, the names of a scope are what the scope records of its own
occurrences: for each text the first binding, unless the scope has declared before that
the text belongs elsewhere.  The scopes and their occurrences are read off the syntax tree,
with no stack of frames.
-/

namespace Lookalike

open Source

section

variable {place : ScopePlace}

/-- The binding that an occurrence makes in its scope, whether it is recorded or not. -/
def Occurrence.made? (place : ScopePlace) : Occurrence → Option Binding
  | .binding text position kind => some (place.binding text position kind)
  | .declaration _ => none
  | .scope _ _ _ _ => none

theorem Occurrence.mem_recorded_iff {earlier : List Occurrence} {occurrence : Occurrence}
    {binding : Binding} :
    binding ∈ occurrence.recorded place earlier ↔
      ∃ text position kind,
        occurrence = .binding text position kind ∧
          text ≠ "" ∧ (∀ before ∈ earlier, before.mentions text = false) ∧
          binding = place.binding text position kind := by
  cases occurrence with
  | binding text position kind =>
      simp only [Occurrence.recorded, List.all_eq_true, Bool.not_eq_true']
      split_ifs with fresh
      · constructor
        · intro mem
          exact ⟨text, position, kind, rfl, fresh.1, fresh.2, List.mem_singleton.mp mem⟩
        · rintro ⟨text', position', kind', same, -, -, rfl⟩
          cases same
          exact List.mem_singleton.mpr rfl
      · constructor
        · intro mem
          exact absurd mem List.not_mem_nil
        · rintro ⟨text', position', kind', same, nonempty, unmentioned, -⟩
          cases same
          exact absurd ⟨nonempty, unmentioned⟩ fresh
  | declaration names => simp [Occurrence.recorded]
  | scope kind name line inside => simp [Occurrence.recorded]

/-- Recorded is the first binding of a text that is not empty, if nothing before it
declares that the text belongs elsewhere. -/
theorem mem_recorded_iff {earlier occurrences : List Occurrence} {binding : Binding} :
    binding ∈ recorded place earlier occurrences ↔
      ∃ before text position kind later,
        occurrences = before ++ .binding text position kind :: later ∧
          text ≠ "" ∧ (∀ occurrence ∈ before ++ earlier, occurrence.mentions text = false) ∧
          binding = place.binding text position kind := by
  induction occurrences generalizing earlier with
  | nil => simp [recorded]
  | cons occurrence later ih =>
      rw [recorded, List.mem_append, ih, Occurrence.mem_recorded_iff]
      constructor
      · rintro (⟨text, position, kind, rfl, nonempty, fresh, rfl⟩ |
          ⟨before, text, position, kind, later', rfl, nonempty, fresh, rfl⟩)
        · exact ⟨[], text, position, kind, later, rfl, nonempty, fresh, rfl⟩
        · refine ⟨occurrence :: before, text, position, kind, later', rfl, nonempty, ?_, rfl⟩
          intro other mem
          apply fresh other
          simp only [List.cons_append, List.mem_cons, List.mem_append] at mem ⊢
          tauto
      · rintro ⟨before, text, position, kind, later', split, nonempty, fresh, rfl⟩
        rcases before with _ | ⟨first, before⟩
        · left
          obtain ⟨rfl, rfl⟩ := List.cons_eq_cons.mp split
          exact ⟨text, position, kind, rfl, nonempty, fresh, rfl⟩
        · right
          obtain ⟨rfl, rfl⟩ := List.cons_eq_cons.mp split
          refine ⟨before, text, position, kind, later', rfl, nonempty, ?_, rfl⟩
          intro other mem
          apply fresh other
          simp only [List.cons_append, List.mem_cons, List.mem_append] at mem ⊢
          tauto

theorem mentions_eq_false_of_mem_recorded {earlier occurrences : List Occurrence}
    {binding : Binding} (mem : binding ∈ recorded place earlier occurrences) :
    ∀ occurrence ∈ earlier, occurrence.mentions binding.text = false := by
  obtain ⟨before, text, position, kind, later, -, -, fresh, rfl⟩ := mem_recorded_iff.mp mem
  intro occurrence earlierMem
  exact fresh occurrence (List.mem_append_right before earlierMem)

/-- No text is recorded twice. -/
theorem nodup_texts_recorded (earlier occurrences : List Occurrence) :
    ((recorded place earlier occurrences).map (·.text)).Nodup := by
  induction occurrences generalizing earlier with
  | nil => exact List.nodup_nil
  | cons occurrence later ih =>
      rw [recorded, List.map_append, List.nodup_append]
      refine ⟨?_, ih (occurrence :: earlier), ?_⟩
      · cases occurrence with
        | binding text position kind =>
            simp only [Occurrence.recorded]
            split_ifs <;> simp
        | declaration names => exact List.nodup_nil
        | scope kind name line inside => exact List.nodup_nil
      · intro text textMem text' textMem' same
        obtain ⟨first, firstMem, rfl⟩ := List.mem_map.mp textMem
        obtain ⟨again, laterMem, rfl⟩ := List.mem_map.mp textMem'
        obtain ⟨text, position, kind, rfl, -, -, rfl⟩ := Occurrence.mem_recorded_iff.mp firstMem
        have unmentioned := mentions_eq_false_of_mem_recorded laterMem _ List.mem_cons_self
        simp [Occurrence.mentions, ← same, ScopePlace.binding] at unmentioned

/-- Names are recorded in the order in which they are bound. -/
theorem recorded_sublist (earlier occurrences : List Occurrence) :
    (recorded place earlier occurrences).Sublist
      (occurrences.filterMap (Occurrence.made? place)) := by
  induction occurrences generalizing earlier with
  | nil => exact List.Sublist.refl _
  | cons occurrence later ih =>
      have laterSublist := ih (occurrence :: earlier)
      cases occurrence with
      | binding text position kind =>
          simp only [recorded, Occurrence.recorded, Occurrence.made?, List.filterMap_cons]
          split_ifs
          · exact List.Sublist.cons_cons _ laterSublist
          · exact List.Sublist.cons _ laterSublist
      | declaration names => exact laterSublist
      | scope kind name line inside => exact laterSublist

end

/-- Without propagation, every scope of a source is harvested with what it records.  These
are bindings that it makes, in order, no text twice, and of each text the first binding,
unless the text is empty or declared before to belong elsewhere.  A text from which a parser
reads the statements is harvested in these scopes. -/
theorem completed_eq_map_recorded {room : Nat} {filePath : String} {statements : List Tree}
    {walk : Walk} (walked : Harvester.walkModule room false filePath statements = .ok walk) :
    (∀ parse source, parse source.toList = .ok statements →
        (harvestSourceIn { parse := parse, room := room } false source filePath).outcome =
          .ok walk.completed.reverse) ∧
      walk.completed.reverse =
        (moduleScopes filePath statements).map (fun scope =>
          { place := scope.place, bindings := recorded scope.place [] scope.course }) ∧
      ∀ scope ∈ moduleScopes filePath statements,
        (recorded scope.place [] scope.course).Sublist
            (scope.course.filterMap (Occurrence.made? scope.place)) ∧
          ((recorded scope.place [] scope.course).map (·.text)).Nodup ∧
          ∀ binding, binding ∈ recorded scope.place [] scope.course ↔
            ∃ before text position kind later,
              scope.course = before ++ .binding text position kind :: later ∧
                text ≠ "" ∧ (∀ occurrence ∈ before, occurrence.mentions text = false) ∧
                binding = scope.place.binding text position kind := by
  have complete := (walkModule_eq_ok_iff.mp walked).2
  refine ⟨fun parse source parsed => outcome_harvestSourceIn parsed walked, ?_, fun scope _ =>
    ⟨recorded_sublist [] scope.course, nodup_texts_recorded [] scope.course,
      fun binding => ?_⟩⟩
  · rw [complete, completeWalk, List.reverse_reverse]
    rfl
  · rw [mem_recorded_iff]
    simp only [List.append_nil]

theorem completed_eq_map_recorded_of_nested :
    ∃ walk,
      Harvester.walkModule Runtime.standard.room false unnamedSource nestedStatements = .ok walk ∧
        walk.completed.reverse =
            (moduleScopes unnamedSource nestedStatements).map (fun scope =>
              { place := scope.place, bindings := recorded scope.place [] scope.course }) ∧
          ((moduleScopes unnamedSource nestedStatements).map fun scope =>
            (recorded scope.place [] scope.course).map (·.text)) =
              [[], ["x", "a"], ["a", "b", "Inner", "x"], ["c", "outer"]] := by
  have walked : Harvester.walkModule Runtime.standard.room false unnamedSource nestedStatements =
      .ok (completeWalk false unnamedSource nestedStatements) := by rfl
  obtain ⟨-, completedEq, -⟩ := completed_eq_map_recorded walked
  exact ⟨_, walked, completedEq, by decide⟩

end Lookalike
