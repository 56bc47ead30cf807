import Lookalike.Proofs.Source.Names

/-!
# What readers keep

A reader keeps names if, of tokens that have names where names stand, it reads a value that has,
and leaves tokens that have.  Every way of putting readers together keeps names if its parts do,
so that what is to be shown of a reader follows its definition line by line.
-/

namespace Lookalike.Source

namespace Reader

/-- Whether a reader makes no names up: if the names in the tokens are names, so are those in what
is read and in what remains. -/
def Keeps {Value : Type} [NameBearer Value] (reader : Reader Value) : Prop :=
  ∀ ⦃stream value rest⦄, WellNamed stream → reader stream = .ok (value, rest) →
    WellNamed value ∧ WellNamed rest

namespace Keeps

variable {Value Value' State : Type} [NameBearer Value] [NameBearer Value'] [NameBearer State]

/-! ### Control -/

theorem pure {value : Value} (named : WellNamed value) : (pure value : Reader Value).Keeps := by
  intro stream value' rest streamNamed read
  cases read
  exact ⟨named, streamNamed⟩

theorem bind {first : Reader Value} {next : Value → Reader Value'} (firstKeeps : first.Keeps)
    (nextKeeps : ∀ value, WellNamed value → (next value).Keeps) : (first >>= next).Keeps := by
  intro stream value' rest streamNamed read
  cases firstRead : first stream with
  | error fault => simp [Bind.bind, StateT.bind, firstRead, Except.bind] at read
  | ok found =>
      simp only [Bind.bind, StateT.bind, firstRead, Except.bind] at read
      rcases firstKeeps streamNamed firstRead with ⟨foundNamed, restNamed⟩
      exact nextKeeps found.1 foundNamed restNamed read

theorem map {first : Reader Value} {image : Value → Value'} (firstKeeps : first.Keeps)
    (imageNamed : ∀ value, WellNamed value → WellNamed (image value)) :
    (image <$> first).Keeps := by
  rw [map_eq_pure_bind]
  exact bind firstKeeps fun value named => pure (imageNamed value named)

theorem ite {condition : Prop} [Decidable condition] {yes no : Reader Value}
    (yesKeeps : yes.Keeps) (noKeeps : no.Keeps) : (if condition then yes else no).Keeps := by
  split
  · exact yesKeeps
  · exact noKeeps

/-- Reading in one way or in another, and then on with what was read. -/
theorem iteThen {condition : Prop} [Decidable condition] {yes no : Reader Value}
    {next : Value → Reader Value'} (yesKeeps : yes.Keeps) (noKeeps : no.Keeps)
    (nextKeeps : ∀ value, WellNamed value → (next value).Keeps) :
    (if condition then yes >>= next else no >>= next).Keeps :=
  ite (bind yesKeeps nextKeeps) (bind noKeeps nextKeeps)

/-- Reading on in one way or in another. -/
theorem test {asked : Reader Bool} {yes no : Reader Value} (askedKeeps : asked.Keeps)
    (yesKeeps : yes.Keeps) (noKeeps : no.Keeps) :
    (asked >>= fun answer => if answer = true then yes else no).Keeps :=
  bind askedKeeps fun _ _ => ite yesKeeps noKeeps

/-- Reading on in one way or in another, as two answers say. -/
theorem testTwo {first second : Reader Bool} {holds : Bool → Bool → Bool}
    {yes no : Reader Value} (firstKeeps : first.Keeps) (secondKeeps : second.Keeps)
    (yesKeeps : yes.Keeps) (noKeeps : no.Keeps) :
    (first >>= fun one => second >>= fun two =>
      if holds one two = true then yes else no).Keeps :=
  bind firstKeeps fun _ _ => bind secondKeeps fun _ _ => ite yesKeeps noKeeps

theorem malformed : (Reader.malformed : Reader Value).Keeps := by
  intro stream value rest _ read
  cases read

theorem exhausted : (Reader.exhausted : Reader Value).Keeps := by
  intro stream value rest _ read
  cases read

theorem either {first second : Reader Value} (firstKeeps : first.Keeps)
    (secondKeeps : second.Keeps) : (either first second).Keeps := by
  intro stream value rest streamNamed read
  rw [Reader.either] at read
  split at read
  · exact secondKeeps streamNamed read
  · exact firstKeeps streamNamed read

theorem ahead {Unread : Type} (reader : Reader Unread) : (ahead reader).Keeps := by
  intro stream value rest streamNamed read
  rw [Reader.ahead] at read
  split at read
  · cases read
    exact ⟨trivial, streamNamed⟩
  · cases read
    exact ⟨trivial, streamNamed⟩
  · cases read

theorem require {value? : Option Value} (named : ∀ value, value? = some value → WellNamed value) :
    (require value?).Keeps := by
  cases value? with
  | none => exact malformed
  | some value => exact pure (named value rfl)

theorem check (condition : Bool) : (check condition).Keeps :=
  ite (pure trivial) malformed

/-! ### Tokens -/

theorem next (holds : Token → Bool) : (next holds).Keeps := by
  intro stream value rest streamNamed read
  rw [Reader.next] at read
  split at read
  · cases read
    exact ⟨trivial, streamNamed⟩
  · cases read
    exact ⟨trivial, streamNamed⟩

theorem second (holds : Token → Bool) : (second holds).Keeps := by
  intro stream value rest streamNamed read
  rw [Reader.second] at read
  split at read
  · cases read
    exact ⟨trivial, streamNamed⟩
  · cases read
    exact ⟨trivial, streamNamed⟩

theorem take : take.Keeps := by
  intro stream value rest streamNamed read
  rw [Reader.take] at read
  split at read
  · cases read
  · rename_i token tokens tokensEq
    have bothNamed : WellNamed (token :: tokens) := tokensEq ▸ streamNamed
    cases read
    exact wellNamed_cons.mp bothNamed

theorem nextIs (spelling : String) : (nextIs spelling).Keeps := next _

theorem secondIs (spelling : String) : (secondIs spelling).Keeps := second _

theorem accept (spelling : String) : (accept spelling).Keeps :=
  test (nextIs spelling) (bind take fun _ _ => pure trivial) (pure trivial)

theorem expect (spelling : String) : (expect spelling).Keeps :=
  bind (accept spelling) fun found _ => check found

theorem expectWord (spelling : String) : (expectWord spelling).Keeps :=
  bind (next _) fun found _ => bind (check found) fun _ _ => bind take fun _ _ => pure trivial

theorem expectLineEnd : expectLineEnd.Keeps := by
  refine bind take fun token _ => ?_
  split
  · exact pure trivial
  · exact malformed

theorem expectBlockStart : expectBlockStart.Keeps := by
  refine bind take fun token _ => ?_
  split
  · exact pure trivial
  · exact malformed

theorem expectBlockEnd : expectBlockEnd.Keeps := by
  refine bind take fun token _ => ?_
  split
  · exact pure trivial
  · exact malformed

theorem nextIsName : nextIsName.Keeps := next _

/-- Names come from the tokens that are names. -/
theorem takeName : takeName.Keeps := by
  refine bind take fun token tokenNamed => ?_
  change WellNamed token.lexeme at tokenNamed
  split
  · rename_i spelling lexemeEq
    rw [lexemeEq] at tokenNamed
    exact pure (wellNamed_pair.mpr ⟨tokenNamed, trivial⟩)
  · exact malformed

theorem place : place.Keeps := by
  intro stream value rest streamNamed read
  rw [Reader.place] at read
  split at read
  · cases read
    exact ⟨trivial, streamNamed⟩
  · cases read
    exact ⟨trivial, streamNamed⟩

/-! ### Repetition -/

theorem iterateAtMost {step : State → Reader (Option State)}
    (stepKeeps : ∀ state, WellNamed state → (step state).Keeps) (steps : ℕ) {state : State}
    (named : WellNamed state) : (iterateAtMost steps step state).Keeps := by
  induction steps generalizing state with
  | zero => exact malformed
  | succ steps ih =>
      refine bind (stepKeeps state named) fun state? state?Named => ?_
      cases state? with
      | none => exact pure named
      | some state' => exact ih (wellNamed_some.mp state?Named)

theorem iterate {step : State → Reader (Option State)} {state : State}
    (stepKeeps : ∀ state, WellNamed state → (step state).Keeps) (named : WellNamed state) :
    (iterate step state).Keeps := by
  intro stream value rest streamNamed read
  exact iterateAtMost stepKeeps _ named streamNamed read

/-- Repeating a step as long as what is asked is the case. -/
theorem iterateIf {asked : Reader Bool} {step : State → Reader (Option State)} {state : State}
    (askedKeeps : asked.Keeps) (stepKeeps : ∀ state, WellNamed state → (step state).Keeps)
    (named : WellNamed state) :
    (Reader.iterate (fun state => do if ← asked then step state else return none) state).Keeps :=
  iterate (fun state stateNamed =>
    test askedKeeps (stepKeeps state stateNamed) (pure wellNamed_none)) named

/-- Reading one more value into a list. -/
theorem consSome {item : Reader Value} {found : List Value} (itemKeeps : item.Keeps)
    (named : WellNamed found) : (item >>= fun value => Pure.pure (some (value :: found))).Keeps :=
  bind itemKeeps fun _ valueNamed =>
    pure (wellNamed_some.mpr (wellNamed_cons.mpr ⟨valueNamed, named⟩))

/-- Collecting values as long as what is asked is the case. -/
theorem collect {asked : Reader Bool} {item : Reader Value} {found : List Value}
    (askedKeeps : asked.Keeps) (itemKeeps : item.Keeps) (named : WellNamed found) :
    (Reader.iterate (fun found => do
      if ← asked then return some ((← item) :: found) else return none) found).Keeps :=
  iterateIf askedKeeps (fun _ foundNamed => consSome itemKeeps foundNamed) named

/-- Reading entries into a state, each behind a comma, up to the mark that closes them. -/
theorem entriesUpTo {entry : State → Reader State} {closing : String} {state : State}
    (entryKeeps : ∀ state, WellNamed state → (entry state).Keeps) (named : WellNamed state) :
    (Reader.iterate (fun state => do
      if (← Reader.nextIs ",") && !(← Reader.secondIs closing) then
        let _ ← Reader.take
        return some (← entry state)
      else return none) state).Keeps := by
  refine iterate (fun state stateNamed => ?_) named
  refine testTwo (nextIs ",") (secondIs closing) ?_ (pure wellNamed_none)
  exact bind take fun _ _ => bind (entryKeeps state stateNamed) fun _ entryNamed =>
    pure (wellNamed_some.mpr entryNamed)

section

variable {begins : Token → Bool} {item : Reader Value}

theorem itemsAfter (itemKeeps : item.Keeps) {first : Value} (named : WellNamed first) :
    (itemsAfter begins item first).Keeps := by
  refine bind (iterate ?_ (wellNamed_cons.mpr ⟨named, wellNamed_nil⟩)) ?_
  · intro found foundNamed
    refine testTwo (nextIs ",") (second begins) ?_ (pure wellNamed_none)
    exact bind take fun _ _ => consSome itemKeeps foundNamed
  · intro found foundNamed
    exact pure (wellNamed_reverse.mpr foundNamed)

theorem items (itemKeeps : item.Keeps) : (items begins item).Keeps := by
  refine bind itemKeeps fun first firstNamed => ?_
  refine bind (itemsAfter itemKeeps firstNamed) fun found foundNamed => ?_
  exact bind (accept ",") fun _ _ => pure foundNamed

end

section

variable {begins : Token → Bool} {item : Reader Tree}

theorem tupleAfter (itemKeeps : item.Keeps) {first : Tree} (named : WellNamed first) :
    (tupleAfter begins item first).Keeps := by
  refine bind (itemsAfter itemKeeps named) fun found foundNamed => ?_
  refine bind (accept ",") fun closed _ => ?_
  split
  · exact pure (wellNamed_cons.mp foundNamed).1
  · exact pure (Tree.wellNamed_compound.mpr foundNamed)

theorem itemOrTuple (itemKeeps : item.Keeps) : (itemOrTuple begins item).Keeps :=
  bind itemKeeps fun _ firstNamed => tupleAfter itemKeeps firstNamed

end

end Keeps

end Reader

/-! ### Outcomes -/

/-- Whether all that stands as a name in what is yielded, if anything is, is a name. -/
def Yields {Value : Type} [NameBearer Value] (outcome : Except Fault Value) : Prop :=
  ∀ value, outcome = .ok value → WellNamed value

namespace Yields

variable {Value Value' : Type} [NameBearer Value] [NameBearer Value']

theorem ok {value : Value} (named : WellNamed value) : Yields (.ok value) := by
  intro value' yielded
  cases yielded
  exact named

theorem error {fault : Fault} : Yields (.error fault : Except Fault Value) := nofun

theorem bind {first : Except Fault Value} {next : Value → Except Fault Value'}
    (firstYields : Yields first) (nextYields : ∀ value, WellNamed value → Yields (next value)) :
    Yields (first >>= next) := by
  cases first with
  | error fault => exact error
  | ok value => exact nextYields value (firstYields value rfl)

theorem ite {condition : Prop} [Decidable condition] {yes no : Except Fault Value}
    (yesYields : Yields yes) (noYields : Yields no) : Yields (if condition then yes else no) := by
  split
  · exact yesYields
  · exact noYields

theorem mapM {Given : Type} {step : Given → Except Fault Value}
    (stepYields : ∀ given, Yields (step given)) (given : List Given) :
    Yields (given.mapM step) := by
  induction given with
  | nil => exact ok wellNamed_nil
  | cons first given ih =>
      rw [List.mapM_cons]
      refine bind (stepYields first) fun value valueNamed => bind ih fun values valuesNamed => ?_
      exact ok (wellNamed_cons.mpr ⟨valueNamed, valuesNamed⟩)

end Yields

end Lookalike.Source
