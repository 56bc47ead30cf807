import Lookalike.Proofs.Source.Reader
import Lookalike.Source.Parameters

/-!
# Names in parameters

Reading the parameters of a function keeps names, if reading the default values and the annotations
among them does.
-/

namespace Lookalike.Source

open Reader

namespace ParameterList

/-- Whether all that stands in a parameter list as a name is a name. -/
structure IsWellNamed (list : ParameterList) : Prop where
  positionalOnly : WellNamed list.positionalOnly
  positional : WellNamed list.positional
  keywordOnly : WellNamed list.keywordOnly
  variadic : WellNamed list.variadic
  keywords : WellNamed list.keywords
  defaults : WellNamed list.defaults
  keywordDefaults : WellNamed list.keywordDefaults
  annotations : WellNamed list.annotations

instance : NameBearer ParameterList := ⟨IsWellNamed⟩

theorem wellNamed_empty : WellNamed ({} : ParameterList) where
  positionalOnly := wellNamed_nil
  positional := wellNamed_nil
  keywordOnly := wellNamed_nil
  variadic := wellNamed_none
  keywords := wellNamed_none
  defaults := wellNamed_nil
  keywordDefaults := wellNamed_nil
  annotations := wellNamed_nil

section

variable {list : ParameterList}

theorem wellNamed_parameters (named : WellNamed list) : WellNamed list.parameters :=
  ⟨wellNamed_reverse.mpr named.positionalOnly, wellNamed_reverse.mpr named.positional,
    wellNamed_reverse.mpr named.keywordOnly, named.variadic, named.keywords⟩

theorem wellNamed_allDefaults (named : WellNamed list) : WellNamed list.allDefaults :=
  wellNamed_append.mpr
    ⟨wellNamed_reverse.mpr named.defaults, wellNamed_reverse.mpr named.keywordDefaults⟩

theorem wellNamed_add? {parameter : Parameter} {default? : Option Tree} (named : WellNamed list)
    (parameterNamed : WellNamed parameter) (defaultNamed : WellNamed default?)
    {list' : ParameterList} (added : list.add? parameter default? = some list') :
    WellNamed list' := by
  rw [add?.eq_def] at added
  split at added
  · split at added
    · rw [← Option.some.inj added]
      exact { named with positional := wellNamed_cons.mpr ⟨parameterNamed, named.positional⟩ }
    · cases added
  · rw [← Option.some.inj added]
    exact
      { named with
        positional := wellNamed_cons.mpr ⟨parameterNamed, named.positional⟩
        defaults := wellNamed_cons.mpr ⟨wellNamed_some.mp defaultNamed, named.defaults⟩ }
  · rw [← Option.some.inj added]
    exact
      { named with
        keywordOnly := wellNamed_cons.mpr ⟨parameterNamed, named.keywordOnly⟩
        keywordDefaults :=
          wellNamed_append.mpr ⟨wellNamed_toList.mpr defaultNamed, named.keywordDefaults⟩ }
  · cases added

theorem wellNamed_slash? (named : WellNamed list) {list' : ParameterList}
    (ended : list.slash? = some list') : WellNamed list' := by
  rw [slash?] at ended
  split at ended
  · rw [← Option.some.inj ended]
    exact { named with positionalOnly := named.positional, positional := wellNamed_nil }
  · cases ended

end

end ParameterList

section

variable {expression : Reader Tree} (expressionKeeps : expression.Keeps)

/-- Whether reading annotations keeps names. -/
structure AnnotationReader.Keeps (reader : AnnotationReader) : Prop where
  single : reader.single.Keeps
  starred : reader.starred.Keeps

theorem keeps_readParameter {annotations? : Option (Reader Tree)}
    (annotationsKeep : ∀ reader ∈ annotations?, reader.Keeps) :
    (readParameter annotations?).Keeps := by
  refine .bind .takeName fun found foundNamed => ?_
  cases annotations? with
  | none => exact .pure (wellNamed_pair.mpr ⟨foundNamed.1, wellNamed_nil⟩)
  | some reader =>
      refine .test (.accept ":") ?_ (.pure (wellNamed_pair.mpr ⟨foundNamed.1, wellNamed_nil⟩))
      refine .bind (annotationsKeep reader rfl) fun tree treeNamed => .pure ?_
      exact wellNamed_pair.mpr ⟨foundNamed.1, wellNamed_cons.mpr ⟨treeNamed, wellNamed_nil⟩⟩

variable {annotations? : Option AnnotationReader}
  (annotationsKeep : ∀ reader ∈ annotations?, reader.Keeps) {list : ParameterList}
  (named : WellNamed list)

include annotationsKeep in
theorem single_keeps : ∀ single ∈ annotations?.map (·.single), Reader.Keeps single := by
  intro single mem
  rcases Option.map_eq_some_iff.mp mem with ⟨reader, readerMem, rfl⟩
  exact (annotationsKeep reader readerMem).single

include annotationsKeep in
theorem starred_keeps : ∀ starred ∈ annotations?.map (·.starred), Reader.Keeps starred := by
  intro starred mem
  rcases Option.map_eq_some_iff.mp mem with ⟨reader, readerMem, rfl⟩
  exact (annotationsKeep reader readerMem).starred

include annotationsKeep named

theorem keeps_readVariadic : (readVariadic annotations? list).Keeps := by
  refine .bind (.check _) fun _ _ => .test (.nextIs ",") (.pure { named with }) ?_
  refine .bind (keeps_readParameter (starred_keeps annotationsKeep)) fun found foundNamed => ?_
  exact .pure
    { named with
      variadic := wellNamed_some.mpr foundNamed.1
      annotations := wellNamed_append.mpr ⟨foundNamed.2, named.annotations⟩ }

theorem keeps_readKeywords : (readKeywords annotations? list).Keeps := by
  refine .bind (.check _) fun _ _ => ?_
  refine .bind (keeps_readParameter (single_keeps annotationsKeep)) fun found foundNamed => .pure ?_
  exact
    { named with
      keywords := wellNamed_some.mpr foundNamed.1
      annotations := wellNamed_append.mpr ⟨foundNamed.2, named.annotations⟩ }

include expressionKeeps

theorem keeps_readPlainParameter : (readPlainParameter expression annotations? list).Keeps := by
  refine .bind (keeps_readParameter (single_keeps annotationsKeep)) fun found foundNamed => ?_
  refine .bind (.accept "=") fun _ _ => ?_
  refine .iteThen ?_ (.pure wellNamed_none) fun default? defaultNamed => ?_
  · exact .map expressionKeeps fun _ valueNamed => wellNamed_some.mpr valueNamed
  · refine .bind (.require fun _ => ParameterList.wellNamed_add? named foundNamed.1 defaultNamed)
      fun list' named' => .pure ?_
    exact
      { named' with annotations := wellNamed_append.mpr ⟨foundNamed.2, named'.annotations⟩ }

theorem keeps_readParameterEntry : (readParameterEntry expression annotations? list).Keeps :=
  .test (.accept "/") (.require fun _ => ParameterList.wellNamed_slash? named)
    (.test (.accept "*") (keeps_readVariadic annotationsKeep named)
      (.test (.accept "**") (keeps_readKeywords annotationsKeep named)
        (keeps_readPlainParameter expressionKeeps annotationsKeep named)))

omit named

theorem keeps_readParameters (closing : String) :
    (readParameters expression annotations? closing).Keeps := by
  refine .test (.nextIs closing) (.pure ParameterList.wellNamed_empty) ?_
  have entryKeeps {list : ParameterList} (named : WellNamed list) :=
    keeps_readParameterEntry expressionKeeps annotationsKeep named
  refine .bind (entryKeeps ParameterList.wellNamed_empty) fun first firstNamed => ?_
  refine .bind (.entriesUpTo (fun _ named => entryKeeps named) firstNamed) fun list named => ?_
  exact .bind (.accept ",") fun _ _ => .bind (.check _) fun _ _ => .pure named

end

end Lookalike.Source
