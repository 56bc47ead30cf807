import Lookalike.Harvest
import Mathlib.Tactic.SplitIfs

/-!
# A harvester can be used again

A harvester keeps the walk through its last source.  That walk may be complete, or it may
have stopped with scopes that are still open and others that are complete already.  Nothing
of it matters to the next source but the way in which inner scopes hand on names, and this
no walk changes, wherever it ends.
-/

namespace Lookalike

open Source

/-! ### What a walk keeps -/

namespace Walk

/-- A walk in which inner scopes hand on names as in another one, with as many open scopes. -/
structure IsLevelWith (walk' walk : Walk) : Prop where
  propagates : walk'.propagates = walk.propagates
  length_frames : walk'.frames.length = walk.frames.length

variable {walk : Walk}

theorem IsLevelWith.refl (walk : Walk) : walk.IsLevelWith walk := ⟨rfl, rfl⟩

theorem IsLevelWith.trans {walk' walk'' : Walk} (level : walk''.IsLevelWith walk')
    (level' : walk'.IsLevelWith walk) : walk''.IsLevelWith walk :=
  ⟨level.propagates.trans level'.propagates, level.length_frames.trans level'.length_frames⟩

theorem isLevelWith_onTop (change : Frame → Frame) : (walk.onTop change).IsLevelWith walk := by
  rw [onTop]
  split
  case h_1 => exact IsLevelWith.refl walk
  case h_2 frame frames framesEq => exact ⟨rfl, by simp [framesEq]⟩

theorem isLevelWith_bind (text : String) (position : Position) (kind : BindingKind) :
    (walk.bind text position kind).IsLevelWith walk :=
  isLevelWith_onTop _

theorem isLevelWith_foldl_bind {Given : Type} (text : Given → String)
    (position : Given → Position) (kind : BindingKind) (given : List Given) :
    (given.foldl (fun walk one => walk.bind (text one) (position one) kind) walk).IsLevelWith
      walk := by
  induction given generalizing walk with
  | nil => exact IsLevelWith.refl walk
  | cons one given ih => exact ih.trans (isLevelWith_bind _ _ _)

theorem isLevelWith_bindParameters (parameters : Parameters) :
    (walk.bindParameters parameters).IsLevelWith walk :=
  isLevelWith_foldl_bind Parameter.name Parameter.position .argument parameters.all

/-- Completing a scope closes it and does no more to what a walk keeps. -/
theorem isLevelWith_pop (walk : Walk) :
    walk.pop.IsLevelWith { walk with frames := walk.frames.tail } := by
  rw [pop]
  split
  case h_1 framesEq => exact ⟨rfl, by rw [framesEq]; rfl⟩
  case h_2 frame frames framesEq =>
    rw [framesEq]
    dsimp only
    split_ifs
    · exact (isLevelWith_onTop _).trans ⟨rfl, rfl⟩
    · exact ⟨rfl, rfl⟩

/-! ### Where a visit ends -/

/-- How a visit that begins with a walk can end.  Until it stops, a visit completes all
scopes that it opens. -/
inductive Ends (walk : Walk) : Except Walk Walk → Prop where
  | complete {walk' : Walk} (level : walk'.IsLevelWith walk) : Ends walk (.ok walk')
  | stopped {walk' : Walk} (propagates : walk'.propagates = walk.propagates)
      (deep : walk.frames.length ≤ walk'.frames.length) : Ends walk (.error walk')

theorem Ends.of_level {walk' : Walk} {result : Except Walk Walk} (ends : walk'.Ends result)
    (level : walk'.IsLevelWith walk) : walk.Ends result := by
  cases ends with
  | complete level' => exact .complete (level'.trans level)
  | stopped propagates deep =>
      exact .stopped (propagates.trans level.propagates) (level.length_frames ▸ deep)

theorem Ends.bind {result : Except Walk Walk} {next : Visit} (ends : walk.Ends result)
    (nextEnds : ∀ walk' : Walk, walk'.Ends (next walk')) : walk.Ends (result >>= next) := by
  cases ends with
  | complete level => exact (nextEnds _).of_level level
  | stopped propagates deep => exact .stopped propagates deep

end Walk

/-- A visit of trees that always ends in one of the ways that are open to it. -/
def VisitEnds (visit : Tree → Visit) : Prop :=
  ∀ tree (walk : Walk), walk.Ends (visit tree walk)

theorem VisitEnds.visitAll {visit : Tree → Visit} (ends : VisitEnds visit) (trees : List Tree)
    (walk : Walk) : walk.Ends (visitAll visit trees walk) := by
  induction trees generalizing walk with
  | nil => exact .complete (Walk.IsLevelWith.refl walk)
  | cons tree trees ih => exact (ends tree walk).bind ih

/-- A scope is open while its body is visited, and stays open if the visit stops there. -/
theorem ends_visitScope (kind : ScopeKind) (name : String) (line : Nat)
    (parameters : Parameters) {body : Visit} (ends : ∀ walk : Walk, walk.Ends (body walk))
    (walk : Walk) :
    walk.Ends (visitScope kind name line parameters body walk) ∧
      ∀ stopped, visitScope kind name line parameters body walk = .error stopped →
        walk.frames.length < stopped.frames.length := by
  -- The scope is open when its body begins, and a body that stops leaves no fewer open.
  have bodyEnds := (ends ((walk.push kind name line).bindParameters parameters)).of_level
    (Walk.isLevelWith_bindParameters parameters)
  have visited : visitScope kind name line parameters body walk =
      body ((walk.push kind name line).bindParameters parameters) >>= fun walk =>
        .ok walk.pop := rfl
  rw [visited]
  generalize body ((walk.push kind name line).bindParameters parameters) = result at bodyEnds
  cases bodyEnds with
  | complete level =>
      refine ⟨.complete ((Walk.isLevelWith_pop _).trans ⟨level.propagates, ?_⟩),
        fun stopped stops => nomatch stops⟩
      rw [List.length_tail, level.length_frames]
      rfl
  | stopped propagates deep =>
      refine ⟨.stopped propagates (Nat.le_of_succ_le deep), ?_⟩
      rintro stopped ⟨⟩
      exact deep

theorem visitEnds_visit : ∀ room, VisitEnds (visit room)
  | 0 | 1 | 2 => fun _ _ => .stopped rfl (Nat.le_refl _)
  | room + 3 => by
      have direct := visitEnds_visit (room + 1)
      have deferred := visitEnds_visit room
      intro tree walk
      cases tree with
      | identifier name position stored =>
          cases stored with
          | false => exact .complete (Walk.IsLevelWith.refl walk)
          | true => exact .complete (Walk.isLevelWith_bind _ _ _)
      | compound construct parts => exact direct.visitAll parts walk
      | function name position decorators parameters defaults annotations body =>
          refine (deferred.visitAll (decorators ++ defaults) walk).bind fun walk' => ?_
          exact (ends_visitScope _ _ _ _ (direct.visitAll body) _).1.of_level
            (Walk.isLevelWith_bind _ _ _)
      | lambda position parameters defaults body =>
          refine (deferred.visitAll defaults walk).bind fun walk' => ?_
          exact (ends_visitScope _ _ _ _ (direct body) walk').1
      | classDefinition name position decorators bases keywordValues body =>
          refine (direct.visitAll (decorators ++ bases ++ keywordValues) walk).bind fun walk' => ?_
          exact (ends_visitScope _ _ _ _ (direct.visitAll body) _).1.of_level
            (Walk.isLevelWith_bind _ _ _)
      | handler alias? position parts =>
          cases alias? with
          | none => exact deferred.visitAll parts walk
          | some name => exact (deferred.visitAll parts _).of_level (Walk.isLevelWith_bind _ _ _)
      | importation aliases position =>
          exact .complete (Walk.isLevelWith_foldl_bind id (fun _ => position) .importation aliases)
      | declaration names => exact .complete (Walk.isLevelWith_onTop _)
      | capture name? position parts =>
          refine (deferred.visitAll parts walk).bind fun walk' => ?_
          cases name? with
          | none => exact .complete (Walk.IsLevelWith.refl walk')
          | some name => exact .complete (Walk.isLevelWith_bind _ _ _)

/-! ### One call -/

namespace Harvester

theorem ends_walkModule (room : Nat) (propagates : Bool) (filePath : String)
    (statements : List Tree) :
    Walk.Ends { propagates := propagates, filePath := filePath }
        (walkModule room propagates filePath statements) ∧
      ∀ walk, walkModule room propagates filePath statements = .error walk → walk.frames ≠ [] := by
  obtain ⟨ends, deeper⟩ := ends_visitScope .module (moduleName filePath) 1 {}
    ((visitEnds_visit room).visitAll statements)
    { propagates := propagates, filePath := filePath }
  exact ⟨ends, fun walk stops => List.ne_nil_of_length_pos (deeper walk stops)⟩

/-- What a call of a harvester can come to: nothing is walked and the harvester stays as it
was; or a walk is complete; or a walk has stopped, with scopes that are still open. -/
inductive Called (harvester : Harvester) : Harvest × Harvester → Prop where
  | unwalked (harvest : Harvest) : Called harvester (harvest, harvester)
  | complete {walk : Walk} (propagates : walk.propagates = harvester.last.propagates)
      (closed : walk.frames = []) :
      Called harvester ({ outcome := .ok walk.completed.reverse }, ⟨walk⟩)
  | stopped {walk : Walk} {filePath : String}
      (propagates : walk.propagates = harvester.last.propagates) (unclosed : walk.frames ≠ []) :
      Called harvester ({ outcome := .error (.tooDeepToWalk filePath) }, ⟨walk⟩)

theorem called_harvestIn (runtime : Runtime) (harvester : Harvester) (source filePath : String) :
    harvester.Called (harvester.harvestIn runtime source filePath) := by
  rw [harvestIn]
  cases runtime.parse source.toList with
  | error fault =>
      dsimp only
      cases fault.error? filePath <;> exact .unwalked _
  | ok statements =>
      obtain ⟨ends, unclosed⟩ := ends_walkModule runtime.room harvester.last.propagates filePath
        statements
      dsimp only
      generalize walkModule runtime.room harvester.last.propagates filePath statements = result
        at ends unclosed
      cases ends with
      | complete level =>
          exact .complete level.propagates (List.eq_nil_of_length_eq_zero level.length_frames)
      | stopped propagates deep => exact .stopped propagates (unclosed _ rfl)

theorem called_harvest (harvester : Harvester) (source filePath : String) :
    harvester.Called (harvester.harvest source filePath) :=
  harvester.called_harvestIn .standard source filePath

theorem called_harvestFile (harvester : Harvester) (tree : FileTree) (path : Path) :
    harvester.Called (harvester.harvestFile tree path) := by
  rw [Harvester.harvestFile]
  cases readText tree path with
  | ok letters => exact harvester.called_harvest _ _
  | error reason => exact .unwalked _

theorem Called.propagates {harvester : Harvester} {result : Harvest × Harvester}
    (called : harvester.Called result) :
    result.2.last.propagates = harvester.last.propagates := by
  cases called with
  | unwalked harvest => rfl
  | complete propagates closed => exact propagates
  | stopped propagates unclosed => exact propagates

/-- A source is harvested as by a new harvester, whatever walk the harvester still has. -/
theorem harvestIn_fst (runtime : Runtime) (harvester : Harvester) (source filePath : String) :
    (harvester.harvestIn runtime source filePath).1 =
      harvestSourceIn runtime harvester.last.propagates source filePath := by
  simp only [harvestSourceIn, harvestIn, new]
  cases runtime.parse source.toList with
  | error fault =>
      dsimp only
      cases fault.error? filePath <;> rfl
  | ok statements =>
      cases walked : walkModule runtime.room harvester.last.propagates filePath statements <;>
        simp [walked]

theorem harvest_fst (harvester : Harvester) (source filePath : String) :
    (harvester.harvest source filePath).1 =
      harvestSource harvester.last.propagates source filePath :=
  harvester.harvestIn_fst .standard source filePath

theorem harvestFile_fst (harvester : Harvester) (tree : FileTree) (path : Path) :
    (harvester.harvestFile tree path).1 =
      Lookalike.harvestFile harvester.last.propagates tree path := by
  rw [Lookalike.harvestFile, Harvester.harvestFile, Harvester.harvestFile]
  cases readText tree path with
  | ok letters => exact harvester.harvest_fst _ _
  | error reason => rfl

end Harvester

/-! ### Any number of calls -/

/-- A call of a harvester: for a source text, or for the file at the end of a path as the
tree of files is at that time. -/
inductive Call where
  | source (text filePath : String)
  | file (tree : FileTree) (path : Path)

namespace Harvester

def perform (harvester : Harvester) : Call → Harvest × Harvester
  | .source text filePath => harvester.harvest text filePath
  | .file tree path => harvester.harvestFile tree path

/-- What comes of calls of the same harvester, one after the other. -/
def performAll (harvester : Harvester) : List Call → List Harvest × Harvester
  | [] => ([], harvester)
  | call :: calls =>
      let (harvest, harvester) := harvester.perform call
      let (harvests, harvester) := harvester.performAll calls
      (harvest :: harvests, harvester)

theorem called_perform (harvester : Harvester) (call : Call) :
    harvester.Called (harvester.perform call) := by
  cases call with
  | source text filePath => exact harvester.called_harvest text filePath
  | file tree path => exact harvester.called_harvestFile tree path

theorem perform_fst (harvester : Harvester) (call : Call) :
    (harvester.perform call).1 = ((new harvester.last.propagates).perform call).1 := by
  cases call with
  | source text filePath => exact harvester.harvest_fst text filePath
  | file tree path => exact harvester.harvestFile_fst tree path

end Harvester

/-- Whatever calls a harvester has had, and whatever walk the last of them has left behind,
each call yields what it yields from a new harvester that hands on names in the same way. -/
theorem performAll_eq_map_new (harvester : Harvester) (calls : List Call) :
    (harvester.performAll calls).1 =
        calls.map (fun call => ((Harvester.new harvester.last.propagates).perform call).1) ∧
      (harvester.performAll calls).2.last.propagates = harvester.last.propagates := by
  induction calls generalizing harvester with
  | nil => exact ⟨rfl, rfl⟩
  | cons call calls ih =>
      -- The harvester changes with every call, but not in how inner scopes hand on names.
      have kept := (harvester.called_perform call).propagates
      obtain ⟨harvestsEq, propagatesEq⟩ := ih (harvester.perform call).2
      rw [kept] at harvestsEq propagatesEq
      refine ⟨?_, propagatesEq⟩
      rw [List.map_cons, ← harvestsEq, ← harvester.perform_fst]
      rfl

end Lookalike
