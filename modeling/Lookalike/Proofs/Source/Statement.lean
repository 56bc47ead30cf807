import Lookalike.Proofs.Source.Pattern
import Lookalike.Source.Statement

/-!
# Names in statements

All names in the statements of a source text are names as tokens spell them: reading statements
keeps names by induction on how deep blocks are nested.
-/

namespace Lookalike.Source

open Reader

/-! ### Simple statements -/

theorem keeps_declaration : declaration.Keeps := by
  refine .bind .takeName fun first firstNamed => ?_
  refine .bind (.itemsAfter .takeName firstNamed) fun names named => .pure ?_
  intro name mem
  rcases List.mem_map.mp mem with ⟨found, foundMem, rfl⟩
  exact (named found foundMem).1

theorem keeps_optionalAlias : optionalAlias.Keeps :=
  .test (.accept _) (.bind .takeName fun _ named => .pure (wellNamed_some.mpr named.1))
    (.pure wellNamed_none)

theorem keeps_dottedRest : dottedRest.Keeps := by
  refine .iterateIf (.accept _) (fun _ _ => ?_) trivial
  exact .bind .takeName fun _ _ => .pure (wellNamed_some.mpr trivial)

theorem keeps_importedName (isDotted : Bool) : (importedName isDotted).Keeps :=
  .bind .takeName fun _ _ => .ite (.bind keeps_dottedRest fun _ _ => keeps_optionalAlias)
    keeps_optionalAlias

theorem wellNamed_importation_filterMap {aliases : List (Option String)}
    (named : WellNamed aliases) {position : Position} :
    WellNamed (Tree.importation (aliases.filterMap id) position) := by
  intro text mem
  rcases List.mem_filterMap.mp mem with ⟨alias?, aliasMem, aliasEq⟩
  exact named alias? aliasMem text aliasEq

theorem keeps_moduleImport (position : Position) : (moduleImport position).Keeps := by
  refine .bind (keeps_importedName true) fun first firstNamed => ?_
  exact .bind (.itemsAfter (keeps_importedName true) firstNamed) fun _ named =>
    .pure (wellNamed_importation_filterMap named)

theorem keeps_importedNames : importedNames.Keeps := by
  refine .test (.accept _) (.pure wellNamed_nil) (.test (.accept _) ?_ ?_)
  · exact .bind (.items (keeps_importedName false)) fun _ named => .bind (.expect _) fun _ _ =>
      .pure named
  · exact .bind (keeps_importedName false) fun _ named =>
      .itemsAfter (keeps_importedName false) named

theorem keeps_leadingDots : leadingDots.Keeps := by
  refine .iterate (fun _ _ => ?_) (wellNamed_bool false)
  refine .test (.accept _) (.pure (wellNamed_some.mpr trivial)) ?_
  exact .test (.accept _) (.pure (wellNamed_some.mpr trivial)) (.pure wellNamed_none)

theorem keeps_nameImport (position : Position) : (nameImport position).Keeps := by
  have imported :
      (do expect "import"
          let aliases ← importedNames
          return Tree.importation (aliases.filterMap id) position : Reader Tree).Keeps :=
    .bind (.expect _) fun _ _ => .bind keeps_importedNames fun _ named =>
      .pure (wellNamed_importation_filterMap named)
  refine .bind keeps_leadingDots fun _ _ => .bind .nextIsName fun _ _ => .ite ?_ imported
  exact .bind .takeName fun _ _ => .bind keeps_dottedRest fun _ _ => imported

section

variable {inner : Inner} (innerKeeps : ∀ kind, (inner kind).Keeps)

/-- Whether all that stands as a name in what is read of an assignment is a name. -/
structure AssignmentState.IsWellNamed (state : AssignmentState) : Prop where
  targets : WellNamed state.targets
  value : WellNamed state.value

instance : NameBearer AssignmentState := ⟨AssignmentState.IsWellNamed⟩

include innerKeeps

theorem keeps_typedAssignment {target : Tree} (named : WellNamed target) :
    (typedAssignment inner target).Keeps := by
  refine .bind (.require fun _ => Tree.wellNamed_of_asSingleTarget? named)
    fun single singleNamed => ?_
  refine .bind (innerKeeps _) fun annotated annotatedNamed => .test (.accept _) ?_ (.pure ?_)
  · refine .bind (keeps_yieldedOrList innerKeeps) fun value valueNamed => .pure ?_
    simp [singleNamed, annotatedNamed, valueNamed]
  · simp [singleNamed, annotatedNamed]

theorem keeps_assignment {first : Tree} (named : WellNamed first) :
    (assignment inner first).Keeps := by
  have firstNamed : WellNamed (⟨[], first⟩ : AssignmentState) :=
    { targets := wellNamed_nil, value := named }
  refine .bind (.iterateIf (.accept _) (fun state stateNamed => ?_) firstNamed)
    fun state stateNamed => .pure ?_
  · refine .bind (.require fun _ => Tree.wellNamed_of_asTarget? stateNamed.value)
      fun target targetNamed => ?_
    refine .bind (keeps_yieldedOrList innerKeeps) fun value valueNamed => .pure ?_
    exact wellNamed_some.mpr
      { targets := wellNamed_cons.mpr ⟨targetNamed, stateNamed.targets⟩, value := valueNamed }
  · simp [stateNamed.targets, stateNamed.value]

theorem keeps_expressionStatement : (expressionStatement inner).Keeps := by
  refine .bind (.ahead _) fun isUnannotated _ => ?_
  refine .bind (keeps_yieldedOrList innerKeeps) fun value named => ?_
  refine .test (.accept _)
    (.bind (.check _) fun _ _ => keeps_typedAssignment innerKeeps named) ?_
  refine .test (.nextIs _) (keeps_assignment innerKeeps named) (.test (.next _) ?_ ?_)
  · refine .bind .take fun _ _ => ?_
    refine .bind (.require fun _ => Tree.wellNamed_of_asSingleTarget? named)
      fun target targetNamed => ?_
    exact .compoundTwo targetNamed (keeps_yieldedOrList innerKeeps)
  · exact .pure (by simp [named])

theorem keeps_deletion : (deletion inner).Keeps :=
  .bind (.items (innerKeeps _)) fun _ named => .bind (.check _) fun _ _ =>
    .pure (Tree.wellNamed_compound.mpr named)

theorem keeps_returnStatement : (returnStatement inner).Keeps :=
  .test (.next _) (.compoundOne (keeps_expressionList innerKeeps)) (.pure (by simp))

theorem keeps_raiseStatement : (raiseStatement inner).Keeps := by
  refine .test (.next _) (.bind (innerKeeps _) fun raised named => ?_) (.pure (by simp))
  exact .test (.accept _) (.compoundTwo named (innerKeeps _)) (.pure (by simp [named]))

theorem keeps_assertion : (assertion inner).Keeps :=
  .bind (innerKeeps _) fun _ named =>
    .test (.accept _) (.compoundTwo named (innerKeeps _)) (.pure (by simp [named]))

theorem keeps_simpleStatement : (simpleStatement inner).Keeps := by
  refine .bind .place fun position _ => .test (.accept _) (keeps_returnStatement innerKeeps) ?_
  refine .test (.accept _) (keeps_moduleImport position) ?_
  refine .test (.accept _) (keeps_nameImport position) ?_
  refine .test (.accept _) (keeps_raiseStatement innerKeeps) ?_
  refine .test (.accept _) (.pure (by simp)) ?_
  refine .test (.accept _) (.pure (by simp)) ?_
  refine .test (.accept _) (.pure (by simp)) ?_
  refine .test (.accept _) (keeps_deletion innerKeeps) ?_
  refine .test (.accept _) (keeps_assertion innerKeeps) ?_
  refine .test (.accept _) keeps_declaration ?_
  exact .test (.accept _) keeps_declaration (keeps_expressionStatement innerKeeps)

theorem keeps_simpleLine : (simpleLine inner).Keeps := by
  refine .bind (keeps_simpleStatement innerKeeps) fun first firstNamed => ?_
  refine .bind (.iterate (fun found foundNamed => ?_) (by simp [firstNamed]))
    fun found foundNamed => ?_
  · refine .testTwo (.nextIs _) (.second _) ?_ (.pure wellNamed_none)
    exact .bind .take fun _ _ => .consSome (keeps_simpleStatement innerKeeps) foundNamed
  · exact .bind (.accept _) fun _ _ => .bind .expectLineEnd fun _ _ =>
      .pure (wellNamed_reverse.mpr foundNamed)

/-! ### Compound statements -/

variable {statements : Reader (List Tree)} (statementsKeep : statements.Keeps)

include statementsKeep

theorem keeps_block : (block inner statements).Keeps := by
  refine .bind (.expect _) fun _ _ => .test (.next _) ?_ (keeps_simpleLine innerKeeps)
  refine .bind .expectLineEnd fun _ _ => .bind .expectBlockStart fun _ _ => ?_
  exact .bind statementsKeep fun _ named => .bind .expectBlockEnd fun _ _ => .pure named

theorem keeps_optionalBlock (keyword : String) : (optionalBlock inner statements keyword).Keeps :=
  .test (.accept _) (keeps_block innerKeeps statementsKeep) (.pure wellNamed_nil)

omit innerKeeps statementsKeep

instance : NameBearer Branch := ⟨fun branch => WellNamed branch.condition ∧ WellNamed branch.body⟩

theorem Branch.wellNamed_orElse {branch : Branch} (named : WellNamed branch) {others : List Tree}
    (othersNamed : WellNamed others) : WellNamed (branch.orElse others) := by
  simp [orElse, named.1, named.2, othersNamed]

include innerKeeps statementsKeep

theorem keeps_branch : (branch inner statements).Keeps := by
  refine .bind (keeps_namedExpression innerKeeps) fun condition conditionNamed => ?_
  exact .bind (keeps_block innerKeeps statementsKeep) fun body bodyNamed =>
    .pure ⟨conditionNamed, bodyNamed⟩

theorem keeps_branches : (branches inner statements).Keeps := by
  have branchKeeps := keeps_branch innerKeeps statementsKeep
  refine .bind branchKeeps fun first firstNamed => ?_
  refine .bind (.collect (.accept _) branchKeeps wellNamed_nil) fun others othersNamed => ?_
  refine .bind (keeps_optionalBlock innerKeeps statementsKeep _) fun last lastNamed => ?_
  refine .ite .exhausted (.pure (Branch.wellNamed_orElse firstNamed ?_))
  refine List.foldlRecOn _ _ lastNamed ?_
  intro rest restNamed branch mem
  exact wellNamed_cons.mpr
    ⟨Branch.wellNamed_orElse (othersNamed branch mem) restNamed, wellNamed_nil⟩

theorem keeps_whileLoop : (whileLoop inner statements).Keeps :=
  .bind (keeps_branch innerKeeps statementsKeep) fun _ firstNamed =>
    .bind (keeps_optionalBlock innerKeeps statementsKeep _) fun _ lastNamed =>
      .pure (Branch.wellNamed_orElse firstNamed lastNamed)

theorem keeps_forLoop : (forLoop inner statements).Keeps := by
  refine .bind (keeps_targetList innerKeeps) fun target targetNamed => ?_
  refine .bind (.expect _) fun _ _ => ?_
  refine .bind (keeps_expressionList innerKeeps) fun source sourceNamed => ?_
  refine .bind (keeps_block innerKeeps statementsKeep) fun body bodyNamed => ?_
  refine .bind (keeps_optionalBlock innerKeeps statementsKeep _) fun last lastNamed => .pure ?_
  simp [targetNamed, sourceNamed, bodyNamed, lastNamed]

omit statementsKeep

theorem keeps_withItem : (withItem inner).Keeps := by
  refine .bind (innerKeeps _) fun resource named => .test (.accept _) ?_ (.pure (by simp [named]))
  refine .bind (keeps_target innerKeeps) fun target targetNamed => ?_
  refine .bind (.nextIs _) fun _ _ => .bind (.nextIs _) fun _ _ => .bind (.nextIs _) fun _ _ => ?_
  exact .bind (.check _) fun _ _ => .pure (by simp [named, targetNamed])

theorem keeps_enclosedWithItems : (enclosedWithItems inner).Keeps := by
  refine .bind (.expect _) fun _ _ => .bind (.items (keeps_withItem innerKeeps)) fun _ named => ?_
  exact .bind (.expect _) fun _ _ => .bind (.nextIs _) fun _ _ => .bind (.check _) fun _ _ =>
    .pure named

theorem keeps_plainWithItems : (plainWithItems inner).Keeps :=
  .bind (keeps_withItem innerKeeps) fun _ named => .itemsAfter (keeps_withItem innerKeeps) named

include statementsKeep

theorem keeps_withBlock : (withBlock inner statements).Keeps := by
  refine .bind (.either (keeps_enclosedWithItems innerKeeps) (keeps_plainWithItems innerKeeps))
    fun resources resourcesNamed => ?_
  refine .bind (keeps_block innerKeeps statementsKeep) fun body bodyNamed => .pure ?_
  simp [resourcesNamed, bodyNamed]

theorem keeps_handler (isGroup : Bool) : (handler inner statements isGroup).Keeps := by
  have blockKeeps := keeps_block innerKeeps statementsKeep
  refine .bind .take fun token _ => .bind (.accept _) fun _ _ => .bind (.check _) fun _ _ => ?_
  refine .bind (.nextIs _) fun _ _ => .ite ?_ ?_
  · exact .bind blockKeeps fun body bodyNamed => .pure (by simp [bodyNamed])
  · refine .bind (innerKeeps _) fun caught caughtNamed => ?_
    refine .bind keeps_optionalAlias fun alias? aliasNamed => ?_
    exact .bind blockKeeps fun body bodyNamed =>
      .pure (by simp [caughtNamed, aliasNamed, bodyNamed])

theorem keeps_tryBlock : (tryBlock inner statements).Keeps := by
  have optionalKeeps := keeps_optionalBlock innerKeeps statementsKeep
  refine .bind (keeps_block innerKeeps statementsKeep) fun body bodyNamed => ?_
  refine .bind (.secondIs _) fun isGroup _ => ?_
  refine .bind (.collect (.nextIs _) (keeps_handler innerKeeps statementsKeep isGroup)
    wellNamed_nil) fun handlers handlersNamed => ?_
  refine .iteThen (.pure wellNamed_nil) (optionalKeeps _) fun last lastNamed => ?_
  refine .bind (.nextIs _) fun _ _ => .bind (.check _) fun _ _ => ?_
  refine .bind (optionalKeeps _) fun finish finishNamed => .pure ?_
  simp [bodyNamed, handlersNamed, lastNamed, finishNamed]

theorem keeps_functionDefinition (position : Position) {decorators : List Tree}
    (named : WellNamed decorators) :
    (functionDefinition inner statements position decorators).Keeps := by
  refine .bind .takeName fun name nameNamed => .bind (.expect _) fun _ _ => ?_
  refine .bind (keeps_readParameters (innerKeeps _) ?_ _) fun list listNamed => ?_
  · intro reader mem
    rw [← Option.some.inj mem]
    exact { single := innerKeeps _, starred := keeps_starredOrPlain innerKeeps }
  have defined (returned : List Tree) (returnedNamed : WellNamed returned) :
      (do let body ← block inner statements
          return Tree.function name.1 position decorators list.parameters list.allDefaults
            (list.annotations.reverse ++ returned) body : Reader Tree).Keeps := by
    refine .bind (keeps_block innerKeeps statementsKeep) fun body bodyNamed => .pure ?_
    simp [named, nameNamed.1, ParameterList.wellNamed_parameters listNamed,
      ParameterList.wellNamed_allDefaults listNamed, listNamed.annotations, returnedNamed,
      bodyNamed]
  refine .bind (.expect _) fun _ _ => .test (.accept _) ?_ (.bind (.pure wellNamed_nil) defined)
  exact .bind (innerKeeps _) fun value valueNamed => .bind (.pure (by simp [valueNamed])) defined

theorem keeps_classDefinition (position : Position) {decorators : List Tree}
    (named : WellNamed decorators) :
    (classDefinition inner statements position decorators).Keeps := by
  refine .bind .takeName fun name nameNamed => .bind (.accept _) fun _ _ => ?_
  refine .iteThen (keeps_arguments innerKeeps) (.pure ArgumentList.wellNamed_empty)
    fun list listNamed => ?_
  refine .bind (keeps_block innerKeeps statementsKeep) fun body bodyNamed => .pure ?_
  simp [nameNamed.1, named, listNamed.values, listNamed.keywordValues, bodyNamed]

omit statementsKeep in
theorem keeps_decorators : (decorators inner).Keeps := by
  refine .bind (.iterateIf (.accept _) (fun found foundNamed => ?_) wellNamed_nil) fun _ named =>
    .pure (wellNamed_reverse.mpr named)
  refine .bind (keeps_namedExpression innerKeeps) fun value valueNamed => ?_
  exact .bind .expectLineEnd fun _ _ => .pure (by simp [valueNamed, foundNamed])

theorem keeps_definition : (definition inner statements).Keeps := by
  refine .bind (keeps_decorators innerKeeps) fun decorators named => ?_
  refine .bind .place fun position _ => ?_
  refine .test (.accept _) (keeps_classDefinition innerKeeps statementsKeep position named) ?_
  exact .bind (.accept _) fun _ _ => .bind (.expect _) fun _ _ =>
    keeps_functionDefinition innerKeeps statementsKeep position named

variable {pattern : Reader Tree} (patternKeeps : pattern.Keeps)

include patternKeeps

theorem keeps_case : (case inner statements pattern).Keeps := by
  refine .bind (.expectWord _) fun _ _ => ?_
  refine .bind (keeps_openSequence patternKeeps) fun matched matchedNamed => ?_
  have guarded (guard : List Tree) (guardNamed : WellNamed guard) :
      (do let body ← block inner statements
          return Tree.compound .case (matched :: guard ++ body) : Reader Tree).Keeps := by
    refine .bind (keeps_block innerKeeps statementsKeep) fun body bodyNamed => .pure ?_
    simp [matchedNamed, guardNamed, bodyNamed]
  refine .test (.accept _) ?_ (.bind (.pure wellNamed_nil) guarded)
  exact .bind (keeps_namedExpression innerKeeps) fun value valueNamed =>
    .bind (.pure (by simp [valueNamed])) guarded

theorem keeps_matchBlock : (matchBlock inner statements pattern).Keeps := by
  have caseKeeps := keeps_case innerKeeps statementsKeep patternKeeps
  refine .bind (.expectWord _) fun _ _ => ?_
  refine .bind (.itemOrTuple (keeps_starredOrNamed innerKeeps)) fun subject subjectNamed => ?_
  refine .bind (.check _) fun _ _ => .bind (.expect _) fun _ _ => ?_
  refine .bind .expectLineEnd fun _ _ => .bind .expectBlockStart fun _ _ => ?_
  refine .bind caseKeeps fun first firstNamed => ?_
  refine .bind (.collect (.next _) caseKeeps (by simp [firstNamed])) fun cases casesNamed => ?_
  exact .bind .expectBlockEnd fun _ _ => .pure (by simp [subjectNamed, casesNamed])

omit patternKeeps

theorem keeps_asyncStatement : (asyncStatement inner statements).Keeps := by
  refine .test (.secondIs _) (keeps_definition innerKeeps statementsKeep) ?_
  refine .bind .take fun _ _ => ?_
  refine .test (.accept _) (keeps_withBlock innerKeeps statementsKeep) ?_
  exact .bind (.expect _) fun _ _ => keeps_forLoop innerKeeps statementsKeep

include patternKeeps

theorem keeps_statement : (statement inner statements pattern).Keeps := by
  have alone {reader : Reader Tree} (readerKeeps : reader.Keeps) :
      (do return [← reader] : Reader (List Tree)).Keeps :=
    .bind readerKeeps fun _ named => .pure (wellNamed_cons.mpr ⟨named, wellNamed_nil⟩)
  refine .bind (.nextIs _) fun _ _ => .bind (.nextIs _) fun _ _ => .bind (.nextIs _) fun _ _ =>
    .ite (alone (keeps_definition innerKeeps statementsKeep)) ?_
  refine .test (.nextIs _) (alone (keeps_asyncStatement innerKeeps statementsKeep)) ?_
  refine .test (.accept _) (alone (keeps_branches innerKeeps statementsKeep)) ?_
  refine .test (.accept _) (alone (keeps_withBlock innerKeeps statementsKeep)) ?_
  refine .test (.accept _) (alone (keeps_forLoop innerKeeps statementsKeep)) ?_
  refine .test (.accept _) (alone (keeps_tryBlock innerKeeps statementsKeep)) ?_
  refine .test (.accept _) (alone (keeps_whileLoop innerKeeps statementsKeep)) ?_
  refine .test (.next _) (.either ?_ (keeps_simpleLine innerKeeps)) (keeps_simpleLine innerKeeps)
  exact alone (keeps_matchBlock innerKeeps statementsKeep patternKeeps)

omit statementsKeep

theorem keeps_statementsWithin (depth : ℕ) : (statementsWithin inner pattern depth).Keeps := by
  induction depth with
  | zero => exact .exhausted
  | succ depth ih =>
      refine .bind (.iterateIf (.next _) (fun found foundNamed => ?_) wellNamed_nil)
        fun found foundNamed => .bind (.check _) fun _ _ => .pure (wellNamed_reverse.mpr foundNamed)
      exact .bind (keeps_statement innerKeeps ih patternKeeps) fun _ named => .pure
        (wellNamed_some.mpr (wellNamed_append.mpr ⟨wellNamed_reverse.mpr named, foundNamed⟩))

end

/-- What stands as a name in the trees of a source text is a name. -/
theorem yields_readSource (text : List Char) : Yields (readSource text) := by
  rw [readSource]
  dsimp only
  split
  · rename_i tokens tokensEq
    have innerKeeps := keeps_phrase ((endLines text).length + 1)
    have keeps := keeps_statementsWithin innerKeeps
      (keeps_patternWithin innerKeeps ((endLines text).length + 1)) ((endLines text).length + 1)
    have tokensNamed : WellNamed (Stream.ofTokens tokens) := wellNamed_tokensOf tokensEq
    refine .ite (.ok wellNamed_nil) ?_
    refine .bind (fun _ read => keeps tokensNamed read) fun found named => ?_
    exact .ite (.ok named.1) .error
  · exact .error

end Lookalike.Source
