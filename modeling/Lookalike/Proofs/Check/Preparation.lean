import Lookalike.Proofs.Check.Collection
import Lookalike.Proofs.Check.Totals
import Lookalike.Proofs.Harvest.OwnNames

/-!
# Prepared checks and their sources

A check can be prepared just if its settings are valid and its paths exist.  Its threshold
is then the floating-point number that was given.  Whether inner scopes hand on their names
plays no part in it, nor in which files are collected and which scopes they have.  So the
totals of a check that do not depend on matches are told by its sources alone.
-/

namespace Lookalike

/-! ### Valid settings -/

theorem Threshold.toFloat?_of_ofNumber {number : Number} {threshold : Threshold}
    (valid : ofNumber number = .ok threshold) : number.toFloat? = some threshold.number := by
  cases converted : number.toFloat? with
  | none => simp [ofNumber, converted] at valid
  | some float =>
      cases float with
      | nan | infinity | negativeZero => simp [ofNumber, converted, Binary64.toRat?] at valid
      | finite value =>
          simp only [ofNumber, converted, Binary64.toRat?] at valid
          split at valid
          · cases valid
            rfl
          · cases valid

/-- The number of a threshold is read as the threshold. -/
theorem Threshold.ofJson_float (threshold : Threshold) :
    ofJson (.float threshold.number) = .ok threshold := by
  simp [Json.float, ofJson, ofNumber, Number.toFloat?, number, Binary64.toRat?,
    threshold.positive, threshold.le_one]

namespace Config

theorem validate_eq_ok_iff {config : Config} {threshold : Threshold} :
    config.validate = .ok threshold ↔
      Threshold.ofJson config.threshold = .ok threshold ∧ isLogLevel config.logLevel = true ∧
        config.maxWorkers.ltInt 1 = false ∧ config.maxFileSize.leInt 0 = false := by
  cases read : Threshold.ofJson config.threshold <;>
    cases level : isLogLevel config.logLevel <;>
    cases workers : config.maxWorkers.ltInt 1 <;>
    cases size : config.maxFileSize.leInt 0 <;>
    simp [validate, read, level, workers, size, Except.mapError, bind, Except.bind, pure,
      Except.pure, throw, throwThe, MonadExceptOf.throw]

/-- The default settings are valid, and they are with any threshold. -/
theorem validate_float (threshold : Threshold) :
    ({ threshold := .float threshold.number } : Config).validate = .ok threshold :=
  validate_eq_ok_iff.mpr ⟨threshold.ofJson_float, rfl, rfl, rfl⟩

/-- A valid threshold is the number that was given. -/
theorem toFloat?_thresholdNumber {config : Config} {threshold : Threshold}
    (valid : config.validate = .ok threshold) :
    config.thresholdNumber.toFloat? = some threshold.number := by
  obtain ⟨read, -⟩ := validate_eq_ok_iff.mp valid
  cases given : config.threshold with
  | number number =>
      rw [given] at read
      rw [thresholdNumber, given]
      exact Threshold.toFloat?_of_ofNumber read
  | _ =>
      rw [given] at read
      cases read

end Config

/-! ### Files that are found -/

/-- Of a file that can be found and decoded, the text is harvested. -/
theorem fileScopes_of_find {tree : FileTree} {path : Path} {content : ByteArray} {source : String}
    (found : tree.find path = .ok (.file content))
    (decoded : decodeText content.data.toList = .ok source.toList) :
    fileScopes tree path = sourceScopes source path.text := by
  have read := FileTree.read_of_find found
  simp only [fileScopes, readText, read, decoded, Except.mapError, String.ofList_toList]

/-! ### Existing paths -/

namespace Check

theorem prepare_eq_ok_iff {tree : FileTree} {config : Config} {paths : List Path}
    {check : Check} :
    prepare tree config paths = .ok check ↔
      ∃ threshold, config.validate = .ok threshold ∧
        (∀ path ∈ paths, tree.exists? path = true) ∧
        check = { config := config, threshold := threshold, paths := paths } := by
  rw [prepare]
  cases valid : config.validate with
  | error error => simp [Except.mapError, bind, Except.bind]
  | ok threshold =>
      simp only [Except.mapError, bind, Except.bind]
      cases missing : paths.find? fun path => !tree.exists? path with
      | some path =>
          have absent := List.find?_some missing
          have mem := List.mem_of_find?_eq_some missing
          constructor
          · intro prepared
            cases prepared
          · rintro ⟨_, _, allExist, _⟩
            simp [allExist path mem] at absent
      | none =>
          have allExist := List.find?_eq_none.mp missing
          simp only [Bool.not_eq_true', Bool.not_eq_false] at allExist
          constructor
          · intro prepared
            cases prepared
            exact ⟨threshold, rfl, allExist, rfl⟩
          · rintro ⟨_, ⟨⟩, -, rfl⟩
            rfl

/-! ### Sources -/

/-- The scopes of all sources that a check harvests, in order. -/
def sources (check : Check) (tree : FileTree) : List SourceScope :=
  (check.collect tree).files.flatMap fun file => (fileScopes tree file).toOption.getD []

theorem flatMap_scopes_harvestFile (check : Check) (tree : FileTree) (propagates : Bool) :
    ((check.collect tree).files.map (harvestFile propagates tree)).flatMap Harvest.scopes =
      (check.sources tree).map (SourceScope.harvested propagates) := by
  simp only [sources, List.flatMap_map, scopes_harvestFile, List.map_flatMap]

/-- What the harvests of a check's files come to.  Only matches and failures to match depend
on whether inner scopes hand on their names. -/
theorem ofHarvests_harvestFile (check : Check) (tree : FileTree) (threshold : Number)
    (matcher : ScopeMatcher) (propagates : Bool) :
    let files := (check.collect tree).files
    let scopes := (check.sources tree).map (SourceScope.harvested propagates)
    CheckResult.ofHarvests threshold matcher (files.map (harvestFile propagates tree)) =
      { filesScanned := files.length
        filesProcessed := files.countP fun file => (fileScopes tree file).isOk
        scopesExamined := (check.sources tree).length
        namesHarvested :=
          ((check.sources tree).map fun source => (source.bindings false).length).sum
        matchesFound := ((scopes.filterMap matcher.report?).map (·.matched.length)).sum
        errors := files.countP (fun file => !(fileScopes tree file).isOk) +
          scopes.countP matcher.fails
        threshold := threshold
        reports := scopes.filterMap matcher.report? } := by
  intro files scopes
  have scopesEq : (files.map (harvestFile propagates tree)).flatMap Harvest.scopes = scopes :=
    check.flatMap_scopes_harvestFile tree propagates
  have ownNamesEq : scopes.map (·.toCollection.ownNames) = _ :=
    SourceScope.map_ownNames_harvested propagates (check.sources tree)
  simp only [CheckResult.ofHarvests, scopesEq, ownNamesEq, List.length_map, List.countP_map,
    Function.comp_def, failed_harvestFile, Bool.not_not, scopes]

end Check

/-! ### Two files -/

theorem prepare_pairCheck : Check.prepare pairTree {} pairCheck.paths = .ok pairCheck := by
  refine Check.prepare_eq_ok_iff.mpr ⟨_, Config.validate_float pairCheck.threshold, ?_, rfl⟩
  intro path mem
  obtain ⟨content, found⟩ := find_pairTree mem
  exact FileTree.exists?_of_find found

theorem fileScopes_pairTree_first :
    fileScopes pairTree { names := ["a.py"] } = sourceScopes pairSource "a.py" :=
  fileScopes_of_find find_pairTree_first rfl

theorem isEmpty_fileScopes_pairTree_second :
    ((fileScopes pairTree { names := ["b.py"] }).toOption.getD []).isEmpty = true := by
  rw [fileScopes, readText, FileTree.read_of_find find_pairTree_second]
  decide +kernel

theorem sources_pairCheck :
    pairCheck.sources pairTree = (sourceScopes pairSource "a.py").toOption.getD [] := by
  have noScopes := List.isEmpty_iff.mp isEmpty_fileScopes_pairTree_second
  rw [Check.sources, files_pairCheck, List.flatMap_cons, noScopes, List.nil_append,
    List.flatMap_singleton, fileScopes_pairTree_first]

theorem map_length_bindings_pairCheck :
    (pairCheck.sources pairTree).map (fun source => (source.bindings false).length) =
      [1, 1, 1] := by
  rw [sources_pairCheck]
  decide +kernel

end Lookalike
