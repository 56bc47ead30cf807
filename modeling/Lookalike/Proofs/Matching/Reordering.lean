import Lookalike.Proofs.Matching.HarvestedScopes
import Lookalike.Proofs.Similarity.Canonical
import Lookalike.Proofs.Similarity.Score
import Mathlib.Data.Sym.Sym2
import Mathlib.Tactic.FinCases

/-!
# Matching names in another order

When names are put into another order, a pair of them may be judged with its two names
exchanged, and it stands elsewhere among the pairs.  The score and the length of the evidence do
not depend on which name comes first, and every two places of the list are judged together
once, in either order of the names.  So the same two occurrences match, with the same score and
with evidence of the same length.
-/

namespace Lookalike

/-! ### Pairs of places without their order -/

section

variable {count count' : ℕ}

theorem nodup_map_mk_indexPairs (order : Fin count' ≃ Fin count) :
    ((indexPairs count').map fun places => s(order places.1, order places.2)).Nodup := by
  apply List.Nodup.map_on _ (nodup_indexPairs count')
  intro places mem places' mem' same
  rw [mem_indexPairs] at mem mem'
  rw [Sym2.eq_iff, order.apply_eq_iff_eq, order.apply_eq_iff_eq, order.apply_eq_iff_eq,
    order.apply_eq_iff_eq] at same
  rcases same with ⟨firstEq, secondEq⟩ | ⟨crossed, crossed'⟩
  · exact Prod.ext firstEq secondEq
  · -- Exchanged places cannot both stand in their order.
    rw [crossed, crossed'] at mem
    exact absurd mem mem'.asymm

theorem mem_map_mk_indexPairs (order : Fin count' ≃ Fin count) (pair : Sym2 (Fin count)) :
    pair ∈ (indexPairs count').map (fun places => s(order places.1, order places.2)) ↔
      ¬pair.IsDiag := by
  induction pair with
  | h left right =>
      simp only [List.mem_map, mem_indexPairs, Sym2.mk_isDiag_iff, Prod.exists]
      constructor
      · rintro ⟨first, second, lt, same⟩ rfl
        rw [Sym2.eq_iff, or_self] at same
        exact lt.ne (order.injective (same.1.trans same.2.symm))
      · intro different
        have different' : order.symm left ≠ order.symm right :=
          fun same => different (order.symm.injective same)
        rcases lt_or_gt_of_ne different' with lt | gt
        · exact ⟨order.symm left, order.symm right, lt, by simp⟩
        · exact ⟨order.symm right, order.symm left, gt, by simp [Sym2.eq_swap]⟩

theorem map_mk_indexPairs_perm (order : Fin count' ≃ Fin count) :
    ((indexPairs count').map fun places => s(order places.1, order places.2)).Perm
      ((indexPairs count).map fun places => s(places.1, places.2)) := by
  apply (List.perm_ext_iff_of_nodup (nodup_map_mk_indexPairs order)
    (nodup_map_mk_indexPairs (Equiv.refl _))).mpr
  intro pair
  rw [mem_map_mk_indexPairs]
  exact (mem_map_mk_indexPairs (Equiv.refl _) pair).symm

end

/-! ### Two names without their order -/

/-- What is found out about two names that does not depend on their order: the score and the
length of the evidence, if they match. -/
def finding? (threshold : Threshold) (left right : Name) : Option (Binary64 × ℕ) :=
  (compareInFull? threshold left right).map fun found => (found.score, found.evidence.length)

theorem finding?_comm (threshold : Threshold) (left right : Name) :
    finding? threshold left right = finding? threshold right left := by
  rw [finding?, finding?, compareInFull?_eq, compareInFull?_eq, score_comm]
  split_ifs
  · simp only [Option.map_some, length_commonSubsequence]
    rw [commonLength_comm]
  · rfl

/-- What is found out about two occurrences in a list of names, with the two of them. -/
def findingAt? (threshold : Threshold) (names : List Name) :
    Sym2 (Fin names.length) → Option (Sym2 (Fin names.length) × Binary64 × ℕ) :=
  Sym2.lift
    ⟨fun left right =>
      (finding? threshold names[left] names[right]).map fun finding => (s(left, right), finding),
      fun left right => by
        dsimp only
        rw [finding?_comm, Sym2.eq_swap]⟩

/-! ### Matches and the places of their names -/

section

variable {threshold : Threshold} {names : List Name}

/-- The match that the names at two places are, if their pair is judged to be one. -/
def matchAt? (threshold : Threshold) (names : List Name) (left right : Fin names.length) :
    Option Match :=
  (judge threshold (names[left], names[right])).toOption.bind Verdict.match?

theorem matchAt?_eq (lettered : ∀ name ∈ names, name.IsLettered)
    (left right : Fin names.length) :
    matchAt? threshold names left right = compareInFull? threshold names[left] names[right] := by
  rw [matchAt?, judge_eq_ok (lettered _ (List.getElem_mem _)) (lettered _ (List.getElem_mem _))]
  simp only [Except.toOption, Option.bind_some, match?_judgeTexts]

/-- The matches of a list of names, each with the places at which its two names stand. -/
def placedMatches (threshold : Threshold) (names : List Name) :
    List ((Fin names.length × Fin names.length) × Match) :=
  (indexPairs names.length).filterMap fun places =>
    (matchAt? threshold names places.1 places.2).map fun found => (places, found)

/-- Whether the matches of a list of names are those that are given together with the places of
their names. -/
structure Matching.IsPlaced (matching : Matching) (names : List Name)
    (placed : List ((Fin names.length × Fin names.length) × Match)) : Prop where
  found_eq : matching.found = placed.map Prod.snd
  places_lt : ∀ one ∈ placed, one.1.1 < one.1.2
  first_eq : ∀ one ∈ placed, one.2.first = names[one.1.1]
  second_eq : ∀ one ∈ placed, one.2.second = names[one.1.2]

theorem exists_isPlaced_placedMatches (threshold : Threshold)
    (lettered : ∀ name ∈ names, name.IsLettered) :
    ∃ matching, matchNames threshold names = .ok matching ∧
      matching.IsPlaced names (placedMatches threshold names) := by
  obtain ⟨matching, matched, foundEq⟩ := exists_matchNames_eq_ok threshold lettered
  have placesOf : ∀ one ∈ placedMatches threshold names, one.1.1 < one.1.2 ∧
      one.2.first = names[one.1.1] ∧ one.2.second = names[one.1.2] := by
    intro one mem
    rw [placedMatches, List.mem_filterMap] at mem
    obtain ⟨places, mem, oneEq⟩ := mem
    rw [matchAt?_eq lettered, compareInFull?_eq, Option.map_eq_some_iff] at oneEq
    obtain ⟨found, foundEq, rfl⟩ := oneEq
    split_ifs at foundEq
    cases foundEq
    exact ⟨mem_indexPairs.mp mem, rfl, rfl⟩
  refine ⟨matching, matched, ?_, ?_, ?_, ?_⟩
  · rw [foundEq, placedMatches, List.map_filterMap, matchesInFull]
    simp [matchAt?_eq lettered]
  · exact fun one mem => (placesOf one mem).1
  · exact fun one mem => (placesOf one mem).2.1
  · exact fun one mem => (placesOf one mem).2.2

/-- What the matches of a list say of the occurrences that stand at the places of their names,
apart from their order: which two they are, the score, and the length of the evidence. -/
def findings {Occurrence : Type} (threshold : Threshold) (names : List Name)
    (occurrence : Fin names.length → Occurrence) : List (Sym2 Occurrence × Binary64 × ℕ) :=
  (placedMatches threshold names).map fun placed =>
    (s(occurrence placed.1.1, occurrence placed.1.2), placed.2.score, placed.2.evidence.length)

/-- Names in another order give the findings of the unordered pairs of places that they come
from. -/
theorem findings_eq {names' : List Name} (lettered : ∀ name ∈ names', name.IsLettered)
    (order : Fin names'.length ≃ Fin names.length)
    (same : ∀ place, names'[place] = names[order place]) :
    findings threshold names' order =
      ((indexPairs names'.length).map fun places => s(order places.1, order places.2)).filterMap
        (findingAt? threshold names) := by
  rw [findings, placedMatches, List.map_filterMap, List.filterMap_map]
  apply List.filterMap_congr
  intro places _
  simp [matchAt?_eq lettered, findingAt?, finding?, same, Option.map_map, Function.comp_def]

end

theorem isLettered_of_reordered {names names' : List Name}
    (lettered : ∀ name ∈ names, name.IsLettered) {order : Fin names'.length → Fin names.length}
    (same : ∀ place, names'[place] = names[order place]) :
    ∀ name ∈ names', name.IsLettered := by
  intro name mem
  obtain ⟨place, placeLt, rfl⟩ := List.getElem_of_mem mem
  rw [show names'[place] = names[order ⟨place, placeLt⟩] from same ⟨place, placeLt⟩]
  exact lettered _ (List.getElem_mem _)

/-- Names in another order have matches of the same occurrences, two by two, with the same
scores and with evidence of the same lengths. -/
theorem findings_reordered_perm (threshold : Threshold) {names names' : List Name}
    (lettered : ∀ name ∈ names, name.IsLettered) (order : Fin names'.length ≃ Fin names.length)
    (same : ∀ place, names'[place] = names[order place]) :
    (∃ matching, matchNames threshold names = .ok matching ∧
        matching.IsPlaced names (placedMatches threshold names)) ∧
      (∃ matching', matchNames threshold names' = .ok matching' ∧
        matching'.IsPlaced names' (placedMatches threshold names')) ∧
      (findings threshold names' order).Perm (findings threshold names id) := by
  have lettered' := isLettered_of_reordered lettered same
  refine ⟨exists_isPlaced_placedMatches threshold lettered,
    exists_isPlaced_placedMatches threshold lettered', ?_⟩
  have unmoved : findings threshold names id = _ :=
    findings_eq lettered (Equiv.refl _) fun _ => rfl
  rw [findings_eq lettered' order same, unmoved]
  exact (map_mk_indexPairs_perm order).filterMap _

/-- Names of which two are equal, and the same names from the last to the first. -/
theorem findings_reordered_perm_of_reversed :
    (∀ name ∈ ["abcd", "abc", "bcd", "abc"].map Name.ofString, name.IsLettered) ∧
      (∀ place : Fin 4, (["abc", "bcd", "abc", "abcd"].map Name.ofString)[place] =
        (["abcd", "abc", "bcd", "abc"].map Name.ofString)[Fin.revPerm place]) ∧
      (findings ⟨1 / 2, by norm_num, by norm_num⟩
        (["abc", "bcd", "abc", "abcd"].map Name.ofString) (Fin.revPerm : Equiv.Perm (Fin 4))).Perm
          (findings ⟨1 / 2, by norm_num, by norm_num⟩
            (["abcd", "abc", "bcd", "abc"].map Name.ofString) id) := by
  have lettered : ∀ name ∈ ["abcd", "abc", "bcd", "abc"].map Name.ofString,
      name.IsLettered := by
    simp [Name.IsLettered, Name.ofString]
  have same : ∀ place : Fin 4, (["abc", "bcd", "abc", "abcd"].map Name.ofString)[place] =
      (["abcd", "abc", "bcd", "abc"].map Name.ofString)[Fin.revPerm place] := by
    intro place
    fin_cases place <;> rfl
  have perm := @findings_reordered_perm ⟨1 / 2, by norm_num, by norm_num⟩
    (["abcd", "abc", "bcd", "abc"].map Name.ofString)
    (["abc", "bcd", "abc", "abcd"].map Name.ofString) lettered
    (Fin.revPerm : Equiv.Perm (Fin 4)) same
  exact ⟨lettered, same, perm.2.2⟩

end Lookalike
