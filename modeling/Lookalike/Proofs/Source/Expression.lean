import Lookalike.Proofs.Source.Parameters
import Lookalike.Proofs.Source.Template
import Lookalike.Source.Expression

/-!
# Names in expressions

Reading an expression keeps names if reading the phrases inside of it does.  A phrase of any depth
is read by readers of phrases that are less deep, and so reading it keeps names by induction on the
depth.
-/

namespace Lookalike.Source

open Reader

/-! ### Parts of compounds -/

namespace Reader.Keeps

variable {reader : Reader Tree} {construct : Construct}

theorem compoundOne (readerKeeps : reader.Keeps) :
    (reader >>= fun part => Pure.pure (Tree.compound construct [part])).Keeps :=
  bind readerKeeps fun _ partNamed =>
    pure (Tree.wellNamed_compound.mpr (wellNamed_cons.mpr ⟨partNamed, wellNamed_nil⟩))

theorem compoundTwo {first : Tree} (firstNamed : WellNamed first) (readerKeeps : reader.Keeps) :
    (reader >>= fun part => Pure.pure (Tree.compound construct [first, part])).Keeps :=
  bind readerKeeps fun _ partNamed => pure (Tree.wellNamed_compound.mpr
    (wellNamed_cons.mpr ⟨firstNamed, wellNamed_cons.mpr ⟨partNamed, wellNamed_nil⟩⟩))

end Reader.Keeps

theorem keeps_nextBindsName : nextBindsName.Keeps :=
  .bind .nextIsName fun _ _ => .bind (.secondIs _) fun _ _ => .pure trivial

section

variable {inner : Inner} (innerKeeps : ∀ kind, (inner kind).Keeps)

include innerKeeps

/-! ### Expressions in lists -/

theorem keeps_namedExpression : (namedExpression inner).Keeps := by
  refine .test keeps_nextBindsName ?_ (innerKeeps _)
  refine .bind .takeName fun found foundNamed => .bind (.expect _) fun _ _ => ?_
  exact .compoundTwo (Tree.wellNamed_identifier.mpr foundNamed.1) (innerKeeps _)

theorem keeps_starredOrNamed : (starredOrNamed inner).Keeps :=
  .test (.accept _) (.compoundOne (innerKeeps _)) (keeps_namedExpression innerKeeps)

theorem keeps_starredOrPlain : (starredOrPlain inner).Keeps :=
  .test (.accept _) (.compoundOne (innerKeeps _)) (innerKeeps _)

theorem keeps_expressionList : (expressionList inner).Keeps :=
  .itemOrTuple (keeps_starredOrPlain innerKeeps)

theorem keeps_yielded : (yielded inner).Keeps := by
  refine .bind (.expect _) fun _ _ => .test (.accept _) (.compoundOne (innerKeeps _)) ?_
  refine .test (.next _) (.compoundOne (keeps_expressionList innerKeeps)) (.pure ?_)
  exact Tree.wellNamed_compound.mpr wellNamed_nil

theorem keeps_yieldedOrList : (yieldedOrList inner).Keeps :=
  .test (.nextIs _) (keeps_yielded innerKeeps) (keeps_expressionList innerKeeps)

/-! ### Targets and comprehensions -/

theorem keeps_primaryTarget :
    (inner .primary >>= fun value => require value.asTarget?).Keeps :=
  .bind (innerKeeps _) fun _ named => .require fun _ => Tree.wellNamed_of_asTarget? named

theorem keeps_target : (target inner).Keeps := by
  refine .test (.accept _) ?_ (keeps_primaryTarget innerKeeps)
  exact .bind (innerKeeps _) fun _ named =>
    .compoundOne (.require fun _ => Tree.wellNamed_of_asTarget? named)

theorem keeps_targetList : (targetList inner).Keeps :=
  .itemOrTuple (keeps_target innerKeeps)

theorem keeps_clause : (clause inner).Keeps := by
  refine .bind (.accept _) fun _ _ => .bind (.expect _) fun _ _ => ?_
  refine .bind (keeps_targetList innerKeeps) fun target targetNamed => ?_
  refine .bind (.expect _) fun _ _ => ?_
  refine .bind (innerKeeps _) fun source sourceNamed => ?_
  refine .bind (.collect (.accept _) (innerKeeps _) wellNamed_nil)
    fun conditions conditionsNamed => .pure ?_
  simp [targetNamed, sourceNamed, conditionsNamed]

theorem keeps_comprehension {elements : List Tree} (named : WellNamed elements)
    (closing : String) : (comprehension inner elements closing).Keeps := by
  refine .bind (.collect (.next _) (keeps_clause innerKeeps) wellNamed_nil)
    fun clauses clausesNamed => .bind (.expect _) fun _ _ => .pure ?_
  simp [named, clausesNamed]

/-- An element without a star can be that of a comprehension. -/
theorem keeps_comprehensionOf {element : Tree} (named : WellNamed element) (closing : String) :
    (do check (!isStarred element)
        comprehension inner [element] closing : Reader Tree).Keeps :=
  .bind (.check _) fun _ _ =>
    keeps_comprehension innerKeeps (wellNamed_cons.mpr ⟨named, wellNamed_nil⟩) closing

/-! ### Brackets -/

theorem keeps_parenthesized : (parenthesized inner).Keeps := by
  refine .test (.accept _) (.pure (Tree.wellNamed_compound.mpr wellNamed_nil)) ?_
  refine .test (.nextIs _) ?_ ?_
  · exact .bind (keeps_yielded innerKeeps) fun _ named => .bind (.expect _) fun _ _ => .pure named
  · refine .bind (keeps_starredOrNamed innerKeeps) fun first firstNamed => ?_
    refine .test (.next _) (keeps_comprehensionOf innerKeeps firstNamed _) ?_
    refine .bind (.tupleAfter (keeps_starredOrNamed innerKeeps) firstNamed) fun _ named => ?_
    exact .bind (.expect _) fun _ _ => .bind (.check _) fun _ _ => .pure named

theorem keeps_listDisplay : (listDisplay inner).Keeps := by
  refine .test (.accept _) (.pure (Tree.wellNamed_compound.mpr wellNamed_nil)) ?_
  refine .bind (keeps_starredOrNamed innerKeeps) fun first firstNamed => ?_
  refine .test (.next _) (keeps_comprehensionOf innerKeeps firstNamed _) ?_
  refine .bind (.itemsAfter (keeps_starredOrNamed innerKeeps) firstNamed) fun _ named => ?_
  exact .bind (.accept _) fun _ _ => .bind (.expect _) fun _ _ =>
    .pure (Tree.wellNamed_compound.mpr named)

omit innerKeeps

instance : NameBearer DictionaryEntry := ⟨fun entry => WellNamed entry.key? ∧ WellNamed entry.value⟩

theorem wellNamed_dictionaryOf {entries : List DictionaryEntry} (named : WellNamed entries) :
    WellNamed (dictionaryOf entries) := by
  refine Tree.wellNamed_compound.mpr (wellNamed_append.mpr ⟨?_, ?_⟩)
  · intro key mem
    rcases List.mem_filterMap.mp mem with ⟨entry, entryMem, keyEq⟩
    exact (named entry entryMem).1 key keyEq
  · intro value mem
    rcases List.mem_map.mp mem with ⟨entry, entryMem, rfl⟩
    exact (named entry entryMem).2

include innerKeeps

theorem keeps_dictionaryEntry : (dictionaryEntry inner).Keeps := by
  refine .test (.accept _) ?_ ?_
  · exact .bind (innerKeeps _) fun value valueNamed => .pure ⟨wellNamed_none, valueNamed⟩
  · refine .bind (innerKeeps _) fun key keyNamed => .bind (.expect _) fun _ _ => ?_
    exact .bind (innerKeeps _) fun value valueNamed =>
      .pure ⟨wellNamed_some.mpr keyNamed, valueNamed⟩

theorem keeps_dictionaryAfter {first : DictionaryEntry} (named : WellNamed first) :
    (dictionaryAfter inner first).Keeps := by
  refine .bind (.itemsAfter (keeps_dictionaryEntry innerKeeps) named) fun entries entriesNamed => ?_
  exact .bind (.accept _) fun _ _ => .bind (.expect _) fun _ _ =>
    .pure (wellNamed_dictionaryOf entriesNamed)

theorem keeps_setAfter {first : Tree} (named : WellNamed first) : (setAfter inner first).Keeps := by
  refine .test (.next _) (keeps_comprehensionOf innerKeeps named _) ?_
  refine .bind (.itemsAfter (keeps_starredOrNamed innerKeeps) named) fun _ foundNamed => ?_
  exact .bind (.accept _) fun _ _ => .bind (.expect _) fun _ _ =>
    .pure (Tree.wellNamed_compound.mpr foundNamed)

theorem keeps_setOrDictionary : (setOrDictionary inner).Keeps := by
  refine .test (.accept _) (.pure (wellNamed_dictionaryOf wellNamed_nil)) ?_
  refine .test (.nextIs _) ?_ ?_
  · exact .bind (keeps_dictionaryEntry innerKeeps) fun _ named =>
      keeps_dictionaryAfter innerKeeps named
  refine .testTwo (.nextIs _) keeps_nextBindsName ?_ ?_
  · exact .bind (keeps_starredOrNamed innerKeeps) fun _ named => keeps_setAfter innerKeeps named
  refine .bind (innerKeeps _) fun first firstNamed => .test (.accept _) ?_ ?_
  · refine .bind (innerKeeps _) fun value valueNamed => .test (.next _) ?_ ?_
    · exact keeps_comprehension innerKeeps (by simp [firstNamed, valueNamed]) _
    · exact keeps_dictionaryAfter innerKeeps ⟨wellNamed_some.mpr firstNamed, valueNamed⟩
  · exact keeps_setAfter innerKeeps firstNamed

/-! ### Subscripts and arguments -/

theorem keeps_optionalExpression : (optionalExpression inner).Keeps :=
  .test (.next _) (.bind (innerKeeps _) fun _ named => .pure (by simp [named]))
    (.pure wellNamed_nil)

theorem keeps_slicePart : (slicePart inner).Keeps := by
  refine .test (.accept _) (.compoundOne (innerKeeps _)) ?_
  refine .test keeps_nextBindsName (keeps_namedExpression innerKeeps) ?_
  refine .bind (keeps_optionalExpression innerKeeps) fun lower lowerNamed => ?_
  refine .test (.accept _) ?_ (.require fun _ head => lowerNamed _ (List.mem_of_head? head))
  refine .bind (keeps_optionalExpression innerKeeps) fun upper upperNamed => ?_
  refine .bind (.accept _) fun _ _ => .iteThen (keeps_optionalExpression innerKeeps)
    (.pure wellNamed_nil) fun stride strideNamed => .pure ?_
  simp [lowerNamed, upperNamed, strideNamed]

theorem keeps_subscriptOf {value : Tree} (named : WellNamed value) :
    (subscriptOf inner value).Keeps := by
  refine .bind (.itemOrTuple (keeps_slicePart innerKeeps)) fun index indexNamed => ?_
  refine .bind (.expect _) fun _ _ => .pure ?_
  split <;> simp [named, indexNamed]

omit innerKeeps

/-- Whether all that stands in arguments as a name is a name. -/
structure ArgumentList.IsWellNamed (list : ArgumentList) : Prop where
  values : WellNamed list.values
  keywordValues : WellNamed list.keywordValues

instance : NameBearer ArgumentList := ⟨ArgumentList.IsWellNamed⟩

theorem ArgumentList.wellNamed_empty : WellNamed ({} : ArgumentList) where
  values := wellNamed_nil
  keywordValues := wellNamed_nil

include innerKeeps

theorem keeps_argument {list : ArgumentList} (named : WellNamed list) :
    (argument inner list).Keeps := by
  refine .test (.accept _) ?_ (.test (.accept _) ?_ ?_)
  · refine .bind (.check _) fun _ _ => .bind (innerKeeps _) fun value valueNamed => .pure ?_
    exact { named with values := by simp [valueNamed, named.values] }
  · refine .bind (innerKeeps _) fun value valueNamed => .pure ?_
    exact { named with keywordValues := by simp [valueNamed, named.keywordValues] }
  refine .testTwo .nextIsName (.secondIs _) ?_ ?_
  · refine .bind .takeName fun _ _ => .bind (.expect _) fun _ _ => ?_
    refine .bind (innerKeeps _) fun value valueNamed => .pure ?_
    exact { named with keywordValues := by simp [valueNamed, named.keywordValues] }
  · refine .bind (.check _) fun _ _ => ?_
    refine .bind (keeps_namedExpression innerKeeps) fun value valueNamed => .pure ?_
    exact { named with values := by simp [valueNamed, named.values] }

theorem keeps_argumentsAfter {first : ArgumentList} (named : WellNamed first) :
    (argumentsAfter inner first).Keeps := by
  refine .bind (.entriesUpTo (fun _ => keeps_argument innerKeeps) named) fun list listNamed => ?_
  exact .bind (.accept _) fun _ _ => .bind (.expect _) fun _ _ => .pure listNamed

theorem keeps_arguments : (arguments inner).Keeps :=
  .test (.accept _) (.pure ArgumentList.wellNamed_empty)
    (.bind (keeps_argument innerKeeps ArgumentList.wellNamed_empty) fun _ named =>
      keeps_argumentsAfter innerKeeps named)

theorem keeps_callArguments : (callArguments inner).Keeps := by
  refine .test (.accept _) (.pure ArgumentList.wellNamed_empty) ?_
  refine .bind (keeps_argument innerKeeps ArgumentList.wellNamed_empty) fun first named => ?_
  split
  · rename_i value valuesEq
    have valueNamed : WellNamed [value] := valuesEq ▸ named.values
    refine .bind (.next _) fun _ _ => .ite ?_ (keeps_argumentsAfter innerKeeps named)
    refine .bind (keeps_comprehension innerKeeps valueNamed _) fun _ treeNamed => .pure ?_
    exact { values := by simp [treeNamed], keywordValues := wellNamed_nil }
  · exact keeps_argumentsAfter innerKeeps named

theorem keeps_callOf {callee : Tree} (named : WellNamed callee) : (callOf inner callee).Keeps := by
  refine .bind (keeps_callArguments innerKeeps) fun list listNamed => .pure ?_
  have keywordsNamed : WellNamed
      (list.keywordValues.reverse.map fun value => Tree.compound .keywordArgument [value]) := by
    intro tree mem
    rcases List.mem_map.mp mem with ⟨value, valueMem, rfl⟩
    simp [listNamed.keywordValues value (List.mem_reverse.mp valueMem)]
  refine Tree.wellNamed_compound.mpr (wellNamed_append.mpr ⟨?_, keywordsNamed⟩)
  simp [named, listNamed.values]

/-! ### Atoms and what follows them -/

theorem keeps_literals : (literals inner).Keeps := by
  refine .bind (.iterateIf (.next _) (fun found _ => ?_) wellNamed_nil) fun found _ => ?_
  · refine .bind .take fun token _ => ?_
    split
    · exact .pure (by simp [wellNamed_list])
    · exact .malformed
  · have yields := yields_readLiterals (innerKeeps .expression) found.reverse
    split
    · rename_i literalsEq
      exact .pure (yields _ literalsEq)
    · exact .malformed
    · exact .exhausted

theorem keeps_atom : (atom inner).Keeps := by
  refine .test (.next _) (keeps_literals innerKeeps) ?_
  refine .bind .take fun token tokenNamed => ?_
  change WellNamed token.lexeme at tokenNamed
  split
  · rename_i lexemeEq
    rw [lexemeEq] at tokenNamed
    exact .pure (Tree.wellNamed_identifier.mpr tokenNamed)
  · exact .pure Tree.wellNamed_constant
  · exact keeps_parenthesized innerKeeps
  · exact keeps_listDisplay innerKeeps
  · exact keeps_setOrDictionary innerKeeps
  · exact .bind (.check _) fun _ _ => .pure Tree.wellNamed_constant
  · exact .malformed

theorem keeps_primary : (primary inner).Keeps := by
  refine .bind (keeps_atom innerKeeps) fun value valueNamed => .iterate ?_ valueNamed
  intro value named
  refine .test (.accept _) ?_ (.test (.accept _) ?_ (.test (.accept _) ?_ (.pure wellNamed_none)))
  · exact .bind .takeName fun _ _ => .pure (by simp [named])
  · exact .bind (keeps_callOf innerKeeps named) fun _ named' => .pure (wellNamed_some.mpr named')
  · exact .bind (keeps_subscriptOf innerKeeps named) fun _ named' =>
      .pure (wellNamed_some.mpr named')

/-! ### Operators -/

omit innerKeeps

section

variable {operand : Reader Tree} (operandKeeps : operand.Keeps)

include operandKeeps

theorem keeps_prefixed (operators : List String) : (prefixed operators operand).Keeps := by
  have applied (value : Tree) (named : WellNamed value) (count : ℕ) :
      WellNamed ((List.range count).foldl (fun value _ => Tree.compound .unary [value]) value) := by
    refine List.foldlRecOn _ _ named ?_
    intro value' named' _ _
    simp [named']
  refine .bind (.iterateIf (.next _) (fun count _ => ?_) (wellNamed_nat 0)) fun count _ => ?_
  · exact .bind .take fun _ _ => .pure (wellNamed_some.mpr (wellNamed_nat _))
  · exact .ite .exhausted (.bind operandKeeps fun value named => .pure (applied value named count))

theorem keeps_chained (operators : List String) : (chained operators operand).Keeps := by
  refine .bind operandKeeps fun first firstNamed =>
    .iterateIf (.next _) (fun left leftNamed => ?_) firstNamed
  refine .bind .take fun _ _ => .bind operandKeeps fun right rightNamed => .pure ?_
  simp [leftNamed, rightNamed]

theorem keeps_flat (operator : String) : (flat operator operand).Keeps := by
  refine .bind operandKeeps fun first firstNamed => ?_
  refine .bind (.collect (.accept _) operandKeeps (by simp [firstNamed])) fun found foundNamed => ?_
  split
  · exact .pure (wellNamed_cons.mp foundNamed).1
  · exact .pure (by simp [foundNamed])

end

include innerKeeps

theorem keeps_power : (power inner).Keeps := by
  have exponent (base : Tree) (baseNamed : WellNamed base) :
      (do if ← accept "**" then return Tree.compound .binary [base, ← inner .factor]
          else return base : Reader Tree).Keeps :=
    .test (.accept _) (.compoundTwo baseNamed (innerKeeps _)) (.pure baseNamed)
  refine .test (.accept _) ?_ (.bind (keeps_primary innerKeeps) exponent)
  refine .bind (keeps_primary innerKeeps) fun value valueNamed => .bind (.pure ?_) exponent
  simp [valueNamed]

theorem keeps_factor : (factor inner).Keeps :=
  keeps_prefixed (keeps_power innerKeeps) _

theorem keeps_bitwise : (bitwise inner).Keeps := by
  have keeps (operators : List (List String)) :
      (operators.foldr chained (factor inner)).Keeps := by
    induction operators with
    | nil => exact keeps_factor innerKeeps
    | cons level operators ih => exact keeps_chained ih level
  exact keeps binaryOperators

omit innerKeeps in
theorem keeps_comparisonOperator : comparisonOperator.Keeps := by
  refine .test (.next _) (.bind .take fun _ _ => .pure trivial) ?_
  refine .test (.accept _) (.bind (.accept _) fun _ _ => .pure trivial) ?_
  refine .testTwo (.nextIs _) (.secondIs _) ?_ (.pure trivial)
  exact .bind .take fun _ _ => .bind .take fun _ _ => .pure trivial

theorem keeps_comparison : (comparison inner).Keeps := by
  have operandKeeps := keeps_bitwise innerKeeps
  refine .bind operandKeeps fun first firstNamed => ?_
  refine .bind (.collect keeps_comparisonOperator operandKeeps (by simp [firstNamed]))
    fun found foundNamed => ?_
  split
  · exact .pure (wellNamed_cons.mp foundNamed).1
  · exact .pure (by simp [foundNamed])

theorem keeps_disjunction : (disjunction inner).Keeps :=
  keeps_flat (keeps_flat (keeps_prefixed (keeps_comparison innerKeeps) _) _) _

/-! ### Whole expressions -/

omit innerKeeps

instance : NameBearer OpenExpression where
  WellNamed
    | .lambda _ list => WellNamed list
    | .conditional value condition => WellNamed value ∧ WellNamed condition

/-- Whether all that stands as a name in what is read of an expression is a name. -/
structure ExpressionState.IsWellNamed (state : ExpressionState) : Prop where
  opened : WellNamed state.opened
  last : WellNamed state.last?

instance : NameBearer ExpressionState := ⟨ExpressionState.IsWellNamed⟩

theorem OpenExpression.wellNamed_close {last : Tree} (lastNamed : WellNamed last)
    {opened : OpenExpression} (named : WellNamed opened) : WellNamed (opened.close last) := by
  cases opened with
  | lambda position list =>
      exact Tree.wellNamed_lambda.mpr ⟨ParameterList.wellNamed_parameters named,
        ParameterList.wellNamed_allDefaults named, lastNamed⟩
  | conditional value condition => simp [close, named.1, named.2, lastNamed]

include innerKeeps

theorem keeps_expressionStep {state : ExpressionState} (named : WellNamed state) :
    (expressionStep inner state).Keeps := by
  have opening {opened : OpenExpression} (openedNamed : WellNamed opened) :
      WellNamed (some { state with opened := opened :: state.opened }) :=
    wellNamed_some.mpr
      { named with opened := wellNamed_cons.mpr ⟨openedNamed, named.opened⟩ }
  refine .ite (.pure wellNamed_none) (.test (.nextIs _) ?_ ?_)
  · refine .bind .take fun token _ => ?_
    refine .bind (keeps_readParameters (innerKeeps _) (by simp) _) fun list listNamed => ?_
    exact .bind (.expect _) fun _ _ => .pure (opening listNamed)
  · refine .bind (keeps_disjunction innerKeeps) fun value valueNamed => .test (.accept _) ?_ ?_
    · refine .bind (keeps_disjunction innerKeeps) fun condition conditionNamed => ?_
      exact .bind (.expect _) fun _ _ => .pure (opening ⟨valueNamed, conditionNamed⟩)
    · exact .pure (wellNamed_some.mpr { named with last := wellNamed_some.mpr valueNamed })

theorem keeps_expression : (expression inner).Keeps := by
  refine .bind (.iterate (fun state named => keeps_expressionStep innerKeeps named)
    { opened := wellNamed_nil, last := wellNamed_none }) fun state named => .ite .exhausted ?_
  refine .bind (.require fun last lastEq => named.last last lastEq) fun last lastNamed => .pure ?_
  refine List.foldlRecOn _ _ lastNamed ?_
  intro value valueNamed opened mem
  exact OpenExpression.wellNamed_close valueNamed (named.opened opened mem)

end

/-- Phrases of any depth have names where names stand. -/
theorem keeps_phrase (depth : ℕ) (kind : Phrase) : (phrase depth kind).Keeps := by
  induction depth generalizing kind with
  | zero => exact .exhausted
  | succ depth ih =>
      cases kind with
      | expression => exact keeps_expression ih
      | disjunction => exact keeps_disjunction ih
      | bitwise => exact keeps_bitwise ih
      | factor => exact keeps_factor ih
      | primary => exact keeps_primary ih

end Lookalike.Source
