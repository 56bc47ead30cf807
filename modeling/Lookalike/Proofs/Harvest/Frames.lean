import Lookalike.Proofs.Harvest.Run

/-!
# Frames hold what their scopes record

An open frame remembers the texts that its scope has bound or declared.  That is enough to
tell which bindings the scope records, so a frame that is run through the occurrences of a
scope ends up with the names of that scope.  A walk pushes and pops frames in balance:
running an occurrence changes the innermost frame, completes the scopes inside the
occurrence, inner ones first, and leaves all other frames as they are.
-/

namespace Lookalike

open Source

/-! ### One frame -/

namespace Frame

/-- A frame remembers the texts that earlier occurrences in its scope mention. -/
def Tracks (frame : Frame) (earlier : List Occurrence) : Prop :=
  ∀ text, text ≠ "" →
    (frame.seen.contains text || frame.declared.contains text) = earlier.any (·.mentions text)

/-- A frame after an occurrence in its scope. -/
def after (propagates : Bool) (frame : Frame) : Occurrence → Frame
  | .binding text position kind => frame.bind text position kind
  | .declaration names => frame.declare names
  | .scope kind name line inside =>
      if propagates then
        frame.adopt (SourceScope.harvested propagates ⟨frame.place.inner kind name line, inside⟩)
      else frame

theorem tracks_new (place : ScopePlace) : Tracks { place := place } [] := by
  intro text nonempty
  rfl

section

variable {propagates : Bool} {frame : Frame} {earlier : List Occurrence}

@[simp]
theorem place_after (occurrence : Occurrence) :
    (frame.after propagates occurrence).place = frame.place := by
  cases occurrence with
  | binding text position kind =>
      simp only [after, bind]
      split_ifs <;> rfl
  | declaration names => rfl
  | scope kind name line inside =>
      simp only [after]
      split_ifs <;> rfl

/-- A binding is ignored just if its text is empty or mentioned before. -/
theorem Tracks.bind_eq (tracks : frame.Tracks earlier) (text : String) (position : Position)
    (kind : BindingKind) :
    frame.bind text position kind =
      if text ≠ "" ∧ earlier.all (!·.mentions text) then
        { frame with
          bindings := frame.place.binding text position kind :: frame.bindings
          seen := text :: frame.seen }
      else frame := by
  by_cases empty : text = ""
  · simp [bind, empty]
  · have knownEq := tracks text empty
    rw [← List.not_any_eq_all_not, ← knownEq]
    cases seen : frame.seen.contains text <;> cases declared : frame.declared.contains text <;>
      simp_all [bind, ScopePlace.binding]

theorem Tracks.bind (tracks : frame.Tracks earlier) (text : String) (position : Position)
    (kind : BindingKind) :
    (frame.bind text position kind).Tracks (.binding text position kind :: earlier) := by
  intro other nonempty
  have knownEq := tracks other nonempty
  rw [tracks.bind_eq, List.any_cons, Occurrence.mentions]
  split_ifs with fresh
  · rw [← knownEq, List.contains_cons, Bool.or_assoc, Bool.beq_comm]
  · by_cases same : text = other
    · -- The text is not bound again because it is mentioned before.
      subst same
      have mentioned : earlier.any (·.mentions text) = true := by
        simpa [nonempty] using fresh
      rw [knownEq, mentioned, Bool.or_true]
    · rw [knownEq, beq_false_of_ne same, Bool.false_or]

theorem Tracks.after (tracks : frame.Tracks earlier) (occurrence : Occurrence) :
    (frame.after propagates occurrence).Tracks (occurrence :: earlier) := by
  cases occurrence with
  | binding text position kind => exact tracks.bind text position kind
  | declaration names =>
      intro other nonempty
      have knownEq := tracks other nonempty
      rw [List.any_cons, ← knownEq, Occurrence.mentions, Bool.or_left_comm]
      simp [Frame.after, declare]
  | scope kind name line inside =>
      intro other nonempty
      have knownEq := tracks other nonempty
      rw [List.any_cons, ← knownEq, Occurrence.mentions, Bool.false_or, Frame.after]
      split_ifs <;> rfl

/-- What an occurrence adds to the names of a frame. -/
theorem Tracks.bindings_after (tracks : frame.Tracks earlier) (occurrence : Occurrence) :
    (frame.after propagates occurrence).bindings =
      (if propagates then occurrence.gathered frame.place earlier
        else occurrence.recorded frame.place earlier).reverse ++ frame.bindings := by
  cases occurrence with
  | binding text position kind =>
      simp only [Frame.after, tracks.bind_eq, Occurrence.gathered, Occurrence.recorded, ite_self]
      split_ifs <;> rfl
  | declaration names => cases propagates <;> rfl
  | scope kind name line inside => cases propagates <;> rfl

/-- A frame that is run through occurrences adds to its names what the scope records of
them, and all that inner scopes hand on. -/
theorem Tracks.bindings_foldl_after (tracks : frame.Tracks earlier)
    (occurrences : List Occurrence) :
    (occurrences.foldl (Frame.after propagates) frame).bindings =
      (if propagates then gathered frame.place earlier occurrences
        else recorded frame.place earlier occurrences).reverse ++ frame.bindings := by
  induction occurrences generalizing frame earlier with
  | nil => cases propagates <;> rfl
  | cons occurrence later ih =>
      rw [List.foldl_cons, ih (tracks.after occurrence), place_after,
        tracks.bindings_after occurrence]
      cases propagates <;> simp [gathered, recorded]

@[simp]
theorem place_foldl_after (occurrences : List Occurrence) :
    (occurrences.foldl (Frame.after propagates) frame).place = frame.place := by
  induction occurrences generalizing frame with
  | nil => rfl
  | cons occurrence later ih => rw [List.foldl_cons, ih, place_after]

end

/-- A new frame that is run through the course of a scope holds what is harvested of it. -/
theorem harvested_foldl_after (propagates : Bool) (scope : SourceScope) :
    (scope.course.foldl (Frame.after propagates) { place := scope.place }).harvested =
      scope.harvested propagates := by
  simp [harvested, SourceScope.harvested, SourceScope.bindings,
    (tracks_new scope.place).bindings_foldl_after]

end Frame

/-! ### The stack of frames -/

/-- A scope that is opened inside another one stands at its inner place. -/
theorem push_eq (propagates : Bool) (frame : Frame) (frames : List Frame)
    (completed : List HarvestedScope) (kind : ScopeKind) (name : String) (line : Nat) :
    Walk.push
        { propagates := propagates
          filePath := frame.place.filePath
          frames := frame :: frames
          completed := completed }
        kind name line =
      { propagates := propagates
        filePath := (frame.place.inner kind name line).filePath
        frames := { place := frame.place.inner kind name line } :: frame :: frames
        completed := completed } := rfl

mutual

/-- Running an occurrence changes the innermost frame alone, and completes the scopes of
the occurrence. -/
theorem run_eq (propagates : Bool) (occurrence : Occurrence) (frame : Frame)
    (frames : List Frame) (completed : List HarvestedScope) :
    occurrence.run
        { propagates := propagates
          filePath := frame.place.filePath
          frames := frame :: frames
          completed := completed } =
      { propagates := propagates
        filePath := frame.place.filePath
        frames := frame.after propagates occurrence :: frames
        completed :=
          ((occurrence.scopes frame.place).map (SourceScope.harvested propagates)).reverse ++
            completed } := by
  cases occurrence with
  | binding text position kind => rfl
  | declaration names => rfl
  | scope kind name line inside =>
      -- The new frame is run through the inside, and popped as what is harvested of it.
      have insideEq := runAll_eq propagates inside { place := frame.place.inner kind name line }
        (frame :: frames) completed
      have harvestedEq := Frame.harvested_foldl_after propagates
        ⟨frame.place.inner kind name line, inside⟩
      rw [Occurrence.run, push_eq, insideEq, Walk.pop]
      simp only [harvestedEq]
      cases propagates <;> simp [Walk.onTop, Frame.after, Occurrence.scopes, ScopePlace.inner]

/-- Running occurrences one after the other changes the innermost frame alone, and
completes their scopes in order. -/
theorem runAll_eq (propagates : Bool) (occurrences : List Occurrence) (frame : Frame)
    (frames : List Frame) (completed : List HarvestedScope) :
    runAll occurrences
        { propagates := propagates
          filePath := frame.place.filePath
          frames := frame :: frames
          completed := completed } =
      { propagates := propagates
        filePath := frame.place.filePath
        frames := occurrences.foldl (Frame.after propagates) frame :: frames
        completed :=
          ((scopesOf frame.place occurrences).map (SourceScope.harvested propagates)).reverse ++
            completed } := by
  cases occurrences with
  | nil => rfl
  | cons occurrence later =>
      have laterEq := runAll_eq propagates later (frame.after propagates occurrence) frames
      rw [Frame.place_after] at laterEq
      rw [runAll, run_eq, laterEq]
      simp [scopesOf]

end

/-! ### A whole source -/

/-- The walk through a source that has been walked to its end. -/
def completeWalk (propagates : Bool) (filePath : String) (statements : List Tree) : Walk :=
  { propagates := propagates
    filePath := filePath
    frames := []
    completed :=
      ((moduleScopes filePath statements).map (SourceScope.harvested propagates)).reverse }

/-- Running a whole source as one scope leaves no frame open. -/
theorem run_module (propagates : Bool) (filePath : String) (statements : List Tree) :
    (Occurrence.scope .module (moduleName filePath) 1 (occurrencesOf statements)).run
        { propagates := propagates, filePath := filePath } =
      completeWalk propagates filePath statements := by
  have insideEq := runAll_eq propagates (occurrencesOf statements)
    { place := modulePlace filePath } [] []
  have harvestedEq := Frame.harvested_foldl_after propagates (moduleScope filePath statements)
  have pushed : Walk.push { propagates := propagates, filePath := filePath } .module
      (moduleName filePath) 1 =
        { propagates := propagates
          filePath := (modulePlace filePath).filePath
          frames := [{ place := modulePlace filePath }] } := rfl
  simp only [moduleScope] at harvestedEq
  rw [Occurrence.run, pushed, insideEq, Walk.pop]
  simp only [harvestedEq]
  cases propagates <;> simp [Walk.onTop, completeWalk, moduleScopes, moduleScope, modulePlace]

/-- The statements of a source are walked to the end just if there is room for all of them. -/
theorem walkModule_eq_ok_iff {room : Nat} {propagates : Bool} {filePath : String}
    {statements : List Tree} {walk : Walk} :
    Harvester.walkModule room propagates filePath statements = .ok walk ↔
      statements.all (Tree.isWalkable room) = true ∧
        walk = completeWalk propagates filePath statements := by
  have visited : (Harvester.walkModule room propagates filePath statements).toOption = _ :=
    toOption_visitScope ((visitRuns_visit room).toOption_visitAll statements) _
  have parametersEq : Source.Parameters.occurrences {} = [] := rfl
  rw [parametersEq, List.nil_append, run_module] at visited
  rw [eq_ok_iff_toOption_eq_some, visited, Option.ite_none_right_eq_some, Option.some_inj,
    eq_comm (a := walk)]

/-- Harvesting a text returns the scopes that the walk through its statements completes,
whatever parser reads the statements and whatever room there is for the walk. -/
theorem harvestIn_eq_of_walked {runtime : Runtime} {harvester : Harvester}
    {source filePath : String} {statements : List Tree} {walk : Walk}
    (parsed : runtime.parse source.toList = .ok statements)
    (walked : Harvester.walkModule runtime.room harvester.last.propagates filePath statements =
      .ok walk) :
    harvester.harvestIn runtime source filePath =
      ({ outcome := .ok walk.completed.reverse }, { last := walk }) := by
  simp only [Harvester.harvestIn, parsed, walked]

theorem outcome_harvestSourceIn {runtime : Runtime} {propagates : Bool} {source filePath : String}
    {statements : List Tree} {walk : Walk} (parsed : runtime.parse source.toList = .ok statements)
    (walked : Harvester.walkModule runtime.room propagates filePath statements = .ok walk) :
    (harvestSourceIn runtime propagates source filePath).outcome =
      .ok walk.completed.reverse := by
  have harvested : (Harvester.new propagates).harvestIn runtime source filePath = _ :=
    harvestIn_eq_of_walked parsed walked
  rw [harvestSourceIn, harvested]

end Lookalike
