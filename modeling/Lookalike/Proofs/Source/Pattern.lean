import Lookalike.Proofs.Source.Expression
import Lookalike.Source.Pattern

/-!
# Names in patterns

Patterns bind the names that are read from tokens and no others.
-/

namespace Lookalike.Source

open Reader

theorem keeps_numberToken : numberToken.Keeps := by
  refine .bind .take fun token _ => ?_
  split
  · exact .pure trivial
  · exact .malformed

theorem keeps_signedNumber : signedNumber.Keeps := by
  refine .test (.accept _) ?_ ?_
  · exact .bind keeps_numberToken fun _ _ => .pure (wellNamed_pair.mpr ⟨by simp, trivial⟩)
  · exact .bind keeps_numberToken fun _ _ =>
      .pure (wellNamed_pair.mpr ⟨Tree.wellNamed_constant, trivial⟩)

theorem keeps_imaginaryPart {first : Tree × Bool} (named : WellNamed first) :
    (imaginaryPart first).Keeps := by
  refine .bind (.check _) fun _ _ => .bind keeps_numberToken fun _ _ => ?_
  exact .bind (.check _) fun _ _ => .pure (by simp [(wellNamed_pair.mp named).1])

theorem keeps_numberPattern : numberPattern.Keeps := by
  refine .bind keeps_signedNumber fun first named => ?_
  refine .test (.accept _) (keeps_imaginaryPart named) ?_
  exact .test (.accept _) (keeps_imaginaryPart named) (.pure (wellNamed_pair.mp named).1)

theorem keeps_captureTarget : captureTarget.Keeps := by
  refine .bind (.next _) fun _ _ => .bind (.check _) fun _ _ => .bind .takeName fun _ named => ?_
  refine .bind (.nextIs _) fun _ _ => .bind (.nextIs _) fun _ _ => .bind (.nextIs _) fun _ _ => ?_
  exact .bind (.check _) fun _ _ => .pure named.1

theorem keeps_members {value : Tree} (named : WellNamed value) : (members value).Keeps := by
  refine .iterateIf (.accept _) (fun value valueNamed => ?_) named
  exact .bind .takeName fun _ _ => .pure (wellNamed_some.mpr (by simp [valueNamed]))

theorem keeps_acceptSingleton : acceptSingleton.Keeps :=
  .test (.accept _) (.pure trivial) (.test (.accept _) (.pure trivial) (.accept _))

section

variable {inner : Inner} (innerKeeps : ∀ kind, (inner kind).Keeps)

include innerKeeps

theorem keeps_literalValue : (literalValue inner).Keeps :=
  .test (.next _) (keeps_literals innerKeeps) keeps_numberPattern

theorem keeps_patternKey : (patternKey inner).Keeps := by
  refine .test .nextIsName ?_ ?_
  · refine .bind .takeName fun found named => .bind (.nextIs _) fun _ _ => ?_
    exact .bind (.check _) fun _ _ => keeps_members (Tree.wellNamed_identifier.mpr named.1)
  · exact .test keeps_acceptSingleton (.pure Tree.wellNamed_constant)
      (keeps_literalValue innerKeeps)

omit innerKeeps

theorem keeps_starredPattern : starredPattern.Keeps := by
  refine .bind .take fun token _ => .test (.next _) ?_ ?_
  · exact .bind .take fun _ _ => .pure (by simp)
  · exact .bind keeps_captureTarget fun _ named => .pure (by simp [named])

variable {pattern : Reader Tree} (patternKeeps : pattern.Keeps)

include patternKeeps

theorem keeps_sequenceItem : (sequenceItem pattern).Keeps :=
  .test (.nextIs _) keeps_starredPattern patternKeeps

theorem keeps_openSequence : (openSequence pattern).Keeps := by
  refine .bind (.nextIs _) fun _ _ => .bind (keeps_sequenceItem patternKeeps) fun first named => ?_
  refine .test (.nextIs _) ?_ (.bind (.check _) fun _ _ => .pure named)
  refine .bind (.itemsAfter (keeps_sequenceItem patternKeeps) named) fun found foundNamed => ?_
  exact .bind (.accept _) fun _ _ => .pure (Tree.wellNamed_compound.mpr foundNamed)

theorem keeps_parenthesizedPattern : (parenthesizedPattern pattern).Keeps := by
  refine .test (.accept _) (.pure (Tree.wellNamed_compound.mpr wellNamed_nil)) ?_
  exact .bind (keeps_openSequence patternKeeps) fun _ named => .bind (.expect _) fun _ _ =>
    .pure named

theorem keeps_listPattern : (listPattern pattern).Keeps := by
  refine .test (.accept _) (.pure (Tree.wellNamed_compound.mpr wellNamed_nil)) ?_
  exact .bind (.items (keeps_sequenceItem patternKeeps)) fun _ named => .bind (.expect _) fun _ _ =>
    .pure (Tree.wellNamed_compound.mpr named)

omit patternKeeps

/-- Whether all that stands in a mapping as a name is a name. -/
structure MappingPattern.IsWellNamed (mapping : MappingPattern) : Prop where
  keys : WellNamed mapping.keys
  values : WellNamed mapping.values
  rest : WellNamed mapping.rest?

instance : NameBearer MappingPattern := ⟨MappingPattern.IsWellNamed⟩

instance : NameBearer ClassPattern := ⟨fun arguments => WellNamed arguments.found⟩

include patternKeeps

theorem keeps_classEntry {arguments : ClassPattern} (named : WellNamed arguments) :
    (classEntry pattern arguments).Keeps := by
  have extended (hasKeyword : Bool) (value : Tree) (valueNamed : WellNamed value) :
      WellNamed (⟨hasKeyword, value :: arguments.found⟩ : ClassPattern) :=
    wellNamed_cons.mpr ⟨valueNamed, named⟩
  refine .testTwo .nextIsName (.secondIs _) ?_ ?_
  · refine .bind (.next _) fun _ _ => .bind (.check _) fun _ _ => .bind .takeName fun _ _ => ?_
    refine .bind (.expect _) fun _ _ => ?_
    exact .bind patternKeeps fun value valueNamed => .pure (extended _ value valueNamed)
  · refine .bind (.check _) fun _ _ => ?_
    exact .bind patternKeeps fun value valueNamed => .pure (extended _ value valueNamed)

theorem keeps_classPattern {matched : Tree} (matchedNamed : WellNamed matched) :
    (classPattern pattern matched).Keeps := by
  refine .test (.accept _) (.pure (by simp [matchedNamed])) ?_
  refine .bind (keeps_classEntry patternKeeps wellNamed_nil) fun first firstNamed => ?_
  refine .bind (.entriesUpTo (fun _ => keeps_classEntry patternKeeps) firstNamed)
    fun arguments named => ?_
  exact .bind (.accept _) fun _ _ => .bind (.expect _) fun _ _ =>
    .pure (Tree.wellNamed_compound.mpr
      (wellNamed_cons.mpr ⟨matchedNamed, wellNamed_reverse.mpr named⟩))

theorem keeps_namePattern : (namePattern pattern).Keeps := by
  refine .bind (.next _) fun _ _ => .bind .takeName fun found named => .ite (.pure (by simp)) ?_
  refine .bind (.nextIs _) fun _ _ => ?_
  refine .bind (keeps_members (Tree.wellNamed_identifier.mpr named.1)) fun value valueNamed => ?_
  refine .test (.accept _) (keeps_classPattern patternKeeps valueNamed) ?_
  refine .bind (.nextIs _) fun _ _ => .bind (.check _) fun _ _ => .ite ?_ ?_
  · exact .pure (by simp [valueNamed])
  · exact .pure (by simp [named.1])

include innerKeeps

theorem keeps_mappingEntry {mapping : MappingPattern} (named : WellNamed mapping) :
    (mappingEntry inner pattern mapping).Keeps := by
  refine .bind (.check _) fun _ _ => .test (.accept _) ?_ ?_
  · exact .bind keeps_captureTarget fun rest restNamed =>
      .pure { named with rest := wellNamed_some.mpr restNamed }
  · refine .bind (keeps_patternKey innerKeeps) fun key keyNamed => .bind (.expect _) fun _ _ => ?_
    refine .bind patternKeeps fun value valueNamed => .pure ?_
    exact
      { named with
        keys := wellNamed_cons.mpr ⟨keyNamed, named.keys⟩
        values := wellNamed_cons.mpr ⟨valueNamed, named.values⟩ }

theorem keeps_mappingPattern (position : Position) :
    (mappingPattern inner pattern position).Keeps := by
  have entryKeeps {mapping : MappingPattern} (named : WellNamed mapping) :
      (mappingEntry inner pattern mapping).Keeps := keeps_mappingEntry innerKeeps patternKeeps named
  have emptyNamed : WellNamed ({} : MappingPattern) :=
    { keys := wellNamed_nil, values := wellNamed_nil, rest := wellNamed_none }
  refine .test (.accept _) (.pure (by simp)) ?_
  refine .bind (entryKeeps emptyNamed) fun first firstNamed => ?_
  refine .bind (.entriesUpTo (fun _ named => entryKeeps named) firstNamed) fun mapping named => ?_
  refine .bind (.accept _) fun _ _ => .bind (.expect _) fun _ _ => .pure ?_
  simp [named.keys, named.values, named.rest]

theorem keeps_closedPattern : (closedPattern inner pattern).Keeps := by
  refine .test .nextIsName (keeps_namePattern patternKeeps) ?_
  refine .test (.accept _) (keeps_parenthesizedPattern patternKeeps) ?_
  refine .test (.accept _) (keeps_listPattern patternKeeps) (.test (.nextIs _) ?_ ?_)
  · exact .bind .take fun token _ => keeps_mappingPattern innerKeeps patternKeeps _
  · exact .test keeps_acceptSingleton (.pure (by simp))
      (.compoundOne (keeps_literalValue innerKeeps))

theorem keeps_patternWith : (patternWith inner pattern).Keeps := by
  have closedKeeps := keeps_closedPattern innerKeeps patternKeeps
  refine .bind .place fun position _ => .bind closedKeeps fun first firstNamed => ?_
  refine .bind (.collect (.accept _) closedKeeps (by simp [firstNamed])) fun found foundNamed => ?_
  have ended (matched : Tree) (matchedNamed : WellNamed matched) :
      (do if ← accept "as" then return Tree.capture (some (← captureTarget)) position [matched]
          else return matched : Reader Tree).Keeps := by
    refine .test (.accept _) ?_ (.pure matchedNamed)
    exact .bind keeps_captureTarget fun _ named => .pure (by simp [named, matchedNamed])
  refine ended _ ?_
  split
  · exact (wellNamed_cons.mp foundNamed).1
  · exact Tree.wellNamed_compound.mpr (wellNamed_reverse.mpr foundNamed)

omit patternKeeps

theorem keeps_patternWithin (depth : ℕ) : (patternWithin inner depth).Keeps := by
  induction depth with
  | zero => exact .exhausted
  | succ depth ih => exact keeps_patternWith innerKeeps ih

end

end Lookalike.Source
