import Lookalike.Proofs.Harvest.Frames

/-!
# What comes of a source

Whether a source can be harvested, and in which scopes, is told here without a walk: from
its statements and the room that walking their trees takes.  The way in which inner scopes hand
on names plays no part in it; it only decides which names the scopes have.
-/

namespace Lookalike

open Source

section

variable {Error Value : Type}

@[simp]
theorem isOk_ok (value : Value) : (Except.ok value : Except Error Value).isOk = true := rfl

@[simp]
theorem isOk_error (error : Error) : (Except.error error : Except Error Value).isOk = false := rfl

end

/-- Whether a harvest has ended in an error. -/
def Harvest.failed (harvest : Harvest) : Bool :=
  !harvest.outcome.isOk

/-- The scopes that a harvest has yielded.  One that has failed has yielded none. -/
def Harvest.scopes (harvest : Harvest) : List HarvestedScope :=
  harvest.outcome.toOption.getD []

/-- The scopes of a source text in the order in which they are complete, or why the text is
not harvested. -/
def sourceScopes (source filePath : String) : Except HarvestError (List SourceScope) :=
  match parseSource source.toList with
  | .error fault => (fault.error? filePath).elim (.ok []) .error
  | .ok statements =>
      if statements.all (Tree.isWalkable Runtime.standard.room) then
        .ok (moduleScopes filePath statements)
      else .error (.tooDeepToWalk filePath)

/-- The scopes of the source in a file, or why the file is not harvested. -/
def fileScopes (tree : FileTree) (path : Path) : Except HarvestError (List SourceScope) :=
  match readText tree path with
  | .ok letters => sourceScopes (String.ofList letters) path.text
  | .error reason => .error (.unreadable path.text reason)

/-! ### Walks that stop -/

/-- A walk stops midway just if there is no room for some statement. -/
theorem exists_walkModule_eq_error_iff (room : Nat) (propagates : Bool) (filePath : String)
    (statements : List Tree) :
    (∃ walk, Harvester.walkModule room propagates filePath statements = .error walk) ↔
      statements.all (Tree.isWalkable room) = false := by
  cases walked : Harvester.walkModule room propagates filePath statements with
  | ok walk =>
      have walkable := (walkModule_eq_ok_iff.mp walked).1
      simp [walkable]
  | error walk =>
      have unwalkable : ¬statements.all (Tree.isWalkable room) = true := by
        intro walkable
        have complete : Harvester.walkModule room propagates filePath statements = .ok _ :=
          walkModule_eq_ok_iff.mpr ⟨walkable, rfl⟩
        rw [walked] at complete
        cases complete
      simpa using unwalkable

-- A lambda is complete before the walk stops at an expression that it has no room for.
example :
    let deep := Nat.repeat (fun inside => Tree.compound .tuple [inside]) 600 Tree.constant
    let statements := [.lambda ⟨1, 0⟩ {} [] Tree.constant, deep]
    (match Harvester.walkModule Runtime.standard.room false unnamedSource statements with
      | .ok _ => 0
      | .error walk => walk.completed.length) = 1 := by
  decide +kernel

/-! ### Harvests -/

/-- A source is harvested in its scopes, with the names that these have. -/
theorem outcome_harvestSource_eq_map (propagates : Bool) (source filePath : String) :
    (harvestSource propagates source filePath).outcome =
      (sourceScopes source filePath).map (List.map (SourceScope.harvested propagates)) := by
  cases parsed : parseSource source.toList with
  | error fault =>
      simp only [harvestSource, harvestSourceIn, Harvester.harvestIn, Runtime.standard, parsed,
        sourceScopes]
      cases fault.error? filePath <;> rfl
  | ok statements =>
      by_cases walkable : statements.all (Tree.isWalkable Runtime.standard.room) = true
      · have walked : Harvester.walkModule Runtime.standard.room propagates filePath statements =
            .ok _ := walkModule_eq_ok_iff.mpr ⟨walkable, rfl⟩
        rw [harvestSource, outcome_harvestSourceIn parsed walked]
        simp [sourceScopes, parsed, walkable, completeWalk, Except.map]
      · obtain ⟨walk, walked⟩ := (exists_walkModule_eq_error_iff Runtime.standard.room propagates
          filePath statements).mpr (Bool.eq_false_iff.mpr walkable)
        have harvested : (Harvester.new propagates).harvestIn .standard source filePath =
            ({ outcome := .error (.tooDeepToWalk filePath) }, ⟨walk⟩) := by
          have parsed' : Runtime.standard.parse source.toList = .ok statements := parsed
          have walked' : Harvester.walkModule Runtime.standard.room
              (Harvester.new propagates).last.propagates filePath statements = .error walk := walked
          simp only [Harvester.harvestIn, parsed', walked']
        rw [harvestSource, harvestSourceIn, harvested]
        simp [sourceScopes, parsed, walkable, Except.map]

theorem outcome_harvestFile_eq_map (propagates : Bool) (tree : FileTree) (path : Path) :
    (harvestFile propagates tree path).outcome =
      (fileScopes tree path).map (List.map (SourceScope.harvested propagates)) := by
  simp only [harvestFile, Harvester.harvestFile, fileScopes]
  cases readText tree path with
  | ok letters => exact outcome_harvestSource_eq_map propagates _ _
  | error reason => rfl

/-! ### Harvests that fail -/

/-- Why a file cannot be harvested. -/
inductive Unharvestable (propagates : Bool) (tree : FileTree) (path : Path) : Prop where
  /-- The file cannot be read, or its bytes are no text. -/
  | unreadable {reason : String} (unread : readText tree path = .error reason)
  | nullCharacter {letters : List Char} (read : readText tree path = .ok letters)
      (null : '\x00' ∈ letters)
  | tooLong {letters : List Char} (read : readText tree path = .ok letters)
      (exhausted : readSource letters = .error .exhausted)
  | tooDeep {letters : List Char} {statements : List Tree}
      (read : readText tree path = .ok letters) (parsed : readSource letters = .ok statements)
      (deep : ∃ statement ∈ statements, statement.isDeeperThan builtLevels = true)
  /-- The walk stops midway, whatever scopes it has completed by then. -/
  | stopped {letters : List Char} {statements : List Tree} {walk : Walk}
      (read : readText tree path = .ok letters) (parsed : readSource letters = .ok statements)
      (walked : Harvester.walkModule Runtime.standard.room propagates path.text statements =
        .error walk)

/-- A harvest fails just if the file has no scopes to be harvested in. -/
theorem failed_harvestFile (propagates : Bool) (tree : FileTree) (path : Path) :
    (harvestFile propagates tree path).failed = !(fileScopes tree path).isOk := by
  rw [Harvest.failed, outcome_harvestFile_eq_map]
  cases fileScopes tree path <;> rfl

theorem scopes_harvestFile (propagates : Bool) (tree : FileTree) (path : Path) :
    (harvestFile propagates tree path).scopes =
      ((fileScopes tree path).toOption.getD []).map (SourceScope.harvested propagates) := by
  rw [Harvest.scopes, outcome_harvestFile_eq_map]
  cases fileScopes tree path <;> rfl

theorem unharvestable_of_isOk_eq_false {propagates : Bool} {tree : FileTree} {path : Path}
    (failed : (fileScopes tree path).isOk = false) : Unharvestable propagates tree path := by
  cases read : readText tree path with
  | error reason => exact .unreadable read
  | ok letters =>
      simp only [fileScopes, read, sourceScopes, parseSource, String.toList_ofList] at failed
      split_ifs at failed with null
      · exact .nullCharacter read (by simpa using null)
      · cases parsed : readSource letters with
        | error fault =>
            cases fault with
            -- A text that is no program has no scopes, but this is no failure.
            | malformed => simp [parsed, ParseFault.error?] at failed
            | exhausted => exact .tooLong read parsed
        | ok statements =>
            simp only [parsed] at failed
            split_ifs at failed with deep
            · exact .tooDeep read parsed (List.any_eq_true.mp deep)
            · dsimp only at failed
              split_ifs at failed with walkable
              · simp at failed
              · obtain ⟨walk, walked⟩ := (exists_walkModule_eq_error_iff _ propagates path.text
                  statements).mpr (Bool.eq_false_iff.mpr walkable)
                exact .stopped read parsed walked

theorem Unharvestable.isOk_eq_false {propagates : Bool} {tree : FileTree} {path : Path}
    (reason : Unharvestable propagates tree path) : (fileScopes tree path).isOk = false := by
  cases reason with
  | unreadable unread => simp [fileScopes, unread]
  | nullCharacter read null =>
      simp [fileScopes, read, sourceScopes, parseSource, null, ParseFault.error?]
  | tooLong read exhausted =>
      simp only [fileScopes, read, sourceScopes, parseSource, String.toList_ofList, exhausted]
      split_ifs <;> rfl
  | tooDeep read parsed deep =>
      simp only [fileScopes, read, sourceScopes, parseSource, String.toList_ofList, parsed,
        List.any_eq_true.mpr deep]
      split_ifs <;> rfl
  | stopped read parsed walked =>
      have unwalkable := (exists_walkModule_eq_error_iff _ _ _ _).mp ⟨_, walked⟩
      simp only [fileScopes, read, sourceScopes, parseSource, String.toList_ofList, parsed]
      split_ifs <;> simp [ParseFault.error?, unwalkable]

theorem failed_harvestFile_iff {propagates : Bool} {tree : FileTree} {path : Path} :
    (harvestFile propagates tree path).failed = true ↔ Unharvestable propagates tree path := by
  rw [failed_harvestFile, Bool.not_eq_true']
  exact ⟨unharvestable_of_isOk_eq_false, Unharvestable.isOk_eq_false⟩

end Lookalike
