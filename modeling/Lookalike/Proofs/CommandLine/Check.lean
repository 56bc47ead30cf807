import Lookalike.Proofs.Check.Schedule
import Lookalike.Proofs.CommandLine.Options
import Lookalike.Proofs.CommandLine.Session
import Lookalike.Proofs.CommandLine.Words
import Lookalike.Proofs.Files.RealPlaces
import Lookalike.Proofs.Json.Printer

/-!
# Checking on the command line

The command that checks files runs the check of a client.  The client has the settings of the
environment, with the threshold of the command's own option or else of the option before the
command, if one of them is given, and with names handed on if either the environment or an
option asks for it.  The formats differ in nothing but what is written, and the exit status
tells whether there are matches if it is asked to.
-/

namespace Lookalike

/-! ### Results of a check -/

/-- A result counts the matches of its reports. -/
theorem Check.matchesFound_ne_zero_iff (check : Check) (tree : FileTree) :
    (check.result tree []).matchesFound ≠ 0 ↔
      ∃ report ∈ (check.result tree []).reports, report.matched ≠ [] := by
  have countEq : (check.result tree []).matchesFound =
      ((check.result tree []).reports.map (·.matched.length)).sum := rfl
  simp [countEq, List.sum_eq_zero_iff]

namespace CommandLine

/-- A call of the command that checks files, on paths that exist. -/
structure CheckCall (tree : FileTree) (words : List String) where
  /-- What is read before the command. -/
  top : ReadWords
  /-- The words behind the command. -/
  rest : List String
  /-- What is read behind the command. -/
  own : ReadWords
  /-- The threshold that is given before the command. -/
  topThreshold : Option Threshold
  /-- The threshold that is given behind the command. -/
  ownThreshold : Option Threshold
  topRead : readWords topForm words = .ok top
  isCheck : top.words = "check" :: rest
  notEarly : early? topForm top = none
  ownRead : readWords checkForm rest = .ok own
  noHelp : own.has .help = false
  topGiven : (top.value? .threshold).map readFloat? =
    topThreshold.map fun threshold => some threshold.number
  ownGiven : (own.value? .threshold).map readFloat? =
    ownThreshold.map fun threshold => some threshold.number
  formatKnown : (own.value? .format).getD defaultFormat ∈ formats
  pathsExist : ∀ path ∈ own.words, textExists tree path = true

namespace CheckOptions

variable {tree : FileTree} (options : CheckOptions) {paths : List String}

/-- Whatever options are chosen, and whatever existing paths are named, there is such a call. -/
def call (pathsExist : ∀ path ∈ paths, textExists tree path = true) :
    CheckCall tree (options.words paths) where
  top := options.top paths
  rest := options.ownWords paths
  own := options.own paths
  topThreshold := options.topThreshold.map (·.threshold)
  ownThreshold := options.ownThreshold.map (·.threshold)
  topRead := options.readWords_words paths
  isCheck := rfl
  notEarly := options.early?_top paths
  ownRead := options.readWords_ownWords paths
  noHelp := options.has_own paths .help
  topGiven := by
    rw [value?_top_threshold]
    cases given : options.topThreshold <;> simp [ThresholdText.read]
  ownGiven := by
    rw [value?_own_threshold]
    cases given : options.ownThreshold <;> simp [ThresholdText.read]
  formatKnown := by
    rw [value?_own_format]
    cases given : options.format with
    | none => decide
    | some name => exact options.known name given
  pathsExist := pathsExist

end CheckOptions

namespace CheckCall

variable {tree : FileTree} {words : List String}

/-- The threshold that is given, the last one if there are two. -/
def threshold? (call : CheckCall tree words) : Option Threshold :=
  call.ownThreshold.or call.topThreshold

def format (call : CheckCall tree words) : String :=
  (call.own.value? .format).getD defaultFormat

/-- The settings of the check in an environment with certain settings. -/
def config (call : CheckCall tree words) (environment : Config) : Config :=
  { environment with
    threshold :=
      (call.threshold?.map fun threshold => .float threshold.number).getD environment.threshold
    propagateNested := environment.propagateNested || call.own.has .nested }

/-! ### Reading the options -/

/-- No way of serving tools is among the options of a check. -/
theorem transport_eq_none (call : CheckCall tree words) :
    call.own.value? .transport = none := by
  have notOption : ¬checkForm.Has .transport := by
    rintro ⟨form, mem, keyEq⟩
    revert form
    decide
  have notGiven : ∀ option ∈ call.own.given.reverse, ¬(option.1 == .transport) = true := by
    intro option mem same
    rw [List.mem_reverse] at mem
    have has := has_of_readWords call.ownRead option mem
    rw [beq_iff_eq.mp same] at has
    exact notOption has
  rw [ReadWords.value?, List.find?_eq_none.mpr notGiven]
  rfl

/-- The value of every option can be read. -/
theorem checkValue_eq_ok (call : CheckCall tree words) (key : OptionKey) :
    checkValue call.own key = .ok () := by
  cases key with
  | threshold =>
      cases value : call.own.value? .threshold with
      | none => simp [checkValue, value]
      | some text =>
          have given := call.ownGiven
          cases own : call.ownThreshold with
          | none => simp [value, own] at given
          | some threshold =>
              have read : readFloat? text = some threshold.number := by
                simpa [value, own] using given
              simp [checkValue, value, readThreshold, read, Except.map]
  | format =>
      cases value : call.own.value? .format with
      | none => simp [checkValue, value]
      | some text =>
          have known : text ∈ formats := by simpa [value] using call.formatKnown
          simp [checkValue, value, readChoice, known, Except.map]
  | transport => simp [checkValue, call.transport_eq_none]
  | _ => simp [checkValue]

theorem forM_eq_ok {Given Fault : Type} {step : Given → Except Fault Unit} {given : List Given}
    (ok : ∀ one, step one = .ok ()) : given.forM step = .ok () := by
  induction given with
  | nil => rfl
  | cons one given ih =>
      rw [List.forM, ok one]
      exact ih

theorem checkValues_eq_ok (call : CheckCall tree words) : checkValues call.own = .ok () :=
  forM_eq_ok call.checkValue_eq_ok

theorem checkPaths_eq_ok (call : CheckCall tree words) :
    checkPaths tree call.own.words = .ok () := by
  have noneMissing : call.own.words.find? (fun path => !textExists tree path) = none := by
    simpa using call.pathsExist
  rw [checkPaths, noneMissing]

theorem exists?_of_textExists {text : String} (textExists : textExists tree text = true) :
    tree.exists? (Path.ofText text) = true := by
  simp only [CommandLine.textExists] at textExists
  split_ifs at textExists with _ folder
  · cases found : tree.find (Path.ofText text) with
    | error fault => simp [FileTree.isFolder, found] at textExists
    | ok node => exact FileTree.exists?_of_find found
  · exact textExists

/-! ### Running -/

theorem givenThreshold_eq (call : CheckCall tree words) :
    givenThreshold call.own = call.ownThreshold.map Threshold.number := by
  have given := call.ownGiven
  cases value : call.own.value? .threshold <;> cases own : call.ownThreshold <;>
    simp_all [givenThreshold]

theorem config_eq (call : CheckCall tree words) (environment : Config) :
    let session := withThreshold environment (call.topThreshold.map Threshold.number)
    let chosen := withThreshold session (call.ownThreshold.map Threshold.number)
    call.config environment =
      { chosen with propagateNested := chosen.propagateNested || call.own.has .nested } := by
  cases own : call.ownThreshold <;> cases top : call.topThreshold <;>
    simp [config, threshold?, withThreshold, own, top]

theorem validate_config (call : CheckCall tree words) {environment : Config}
    {threshold : Threshold} (valid : environment.validate = .ok threshold) :
    (call.config environment).validate = .ok (call.threshold?.getD threshold) := by
  have sessionValid := validate_withThreshold valid call.topThreshold
  have chosenValid := validate_withThreshold sessionValid call.ownThreshold
  have lastEq : call.ownThreshold.getD (call.topThreshold.getD threshold) =
      call.threshold?.getD threshold := by
    cases own : call.ownThreshold <;> simp [threshold?, own]
  rw [config_eq, ← lastEq, ← chosenValid]
  rfl

/-- The settings of a check are those of the session with the check's own options. -/
theorem checkConfig_eq (call : CheckCall tree words) {environment : Config}
    {threshold : Threshold} (valid : environment.validate = .ok threshold) :
    checkConfig (withThreshold environment (call.topThreshold.map Threshold.number)) call.own =
      .ok (call.config environment) := by
  have checked := call.validate_config valid
  rw [config_eq] at checked ⊢
  simp only [checkConfig, call.givenThreshold_eq, checked, bind, Except.bind, pure, Except.pure]

/-- The client that checks, when the environment gives another one. -/
def checker (call : CheckCall tree words) (client : Client) : Client :=
  { config := call.config client.config
    threshold := call.threshold?.getD client.threshold }

/-- The check that a call runs. -/
def check (call : CheckCall tree words) (client : Client) : Check :=
  (call.checker client).prepared tree (call.own.words.map Path.ofText)

variable {client : Client}

theorem check_checker (call : CheckCall tree words)
    (valid : client.config.validate = .ok client.threshold) (home : tree.IsReal tree.home) :
    Client.new (call.config client.config) = .ok (call.checker client) ∧
      (call.checker client).check tree (call.own.words.map Path.ofText) =
        (call.check client).run tree [] := by
  have checkerValid : (call.checker client).config.validate = .ok (call.checker client).threshold :=
    call.validate_config valid
  have allExist : ∀ path ∈ call.own.words.map Path.ofText, tree.exists? path = true := by
    simp only [List.forall_mem_map]
    exact fun text mem => exists?_of_textExists (call.pathsExist text mem)
  exact ⟨Client.new_eq_ok_iff.mpr ⟨rfl, checkerValid⟩,
    Client.check_of_exists? checkerValid home allExist⟩

/-- The check comes to its result, since the environment gives a number of workers that can be told
and is at least one. -/
theorem exists_run_eq_ok {environment : Environment} (call : CheckCall tree words)
    (built : Client.ofEnvironment environment [] = .ok client) :
    ∃ finished, (call.check client).run tree [] = .ok finished ∧
      finished.result = (call.check client).result tree [] := by
  obtain ⟨configRead, valid⟩ := Client.ofEnvironment_nil_eq_ok_iff.mp built
  rw [Config.ofEnvironment_of_isReadable (Config.isReadable_of_ofEnvironment configRead)]
    at configRead
  have workersEq : (call.check client).config.maxWorkers =
      .int (Settings.ofEnvironment environment).maxWorkers :=
    congrArg Config.maxWorkers (Except.ok.inj configRead).symm
  have writable := Settings.isWritable_maxWorkers_ofEnvironment environment
  obtain ⟨-, -, notFewer, -⟩ := Config.validate_eq_ok_iff.mp valid
  have atLeastOne : (call.check client).config.maxWorkers.geInt 1 = true := by
    have sameWorkers : client.config.maxWorkers = (call.check client).config.maxWorkers := rfl
    rw [sameWorkers, workersEq] at notFewer
    rw [workersEq]
    simpa [Number.ltInt, Number.geInt] using notFewer
  apply Check.exists_run_eq_ok
  rw [Check.ending_eq_of_geInt atLeastOne, workersEq, if_pos (Or.inr writable)]

/-- The outcome of a call is that of the check by a client with the chosen settings. -/
theorem outcome_eq {around : Surroundings} (call : CheckCall around.tree words)
    (built : Client.ofEnvironment around.environment [] = .ok client)
    (notBlank : ¬around.environment.HasBlankThreshold)
    (home : around.tree.IsReal around.tree.home) :
    outcome around words =
      checkOutcome around.columns call.own ((call.check client).result around.tree []) := by
  obtain ⟨-, valid⟩ := Client.ofEnvironment_nil_eq_ok_iff.mp built
  obtain ⟨threshold, thresholdEq, sessionEq⟩ := session_eq built notBlank call.topGiven
  obtain ⟨checkerNew, checked⟩ := call.check_checker valid home
  obtain ⟨finished, ran, resultEq⟩ := call.exists_run_eq_ok built
  have isCommand : commandNames.contains "check" = true := by decide
  -- Values and paths are looked at in the order of the command's words, and all of them fit.
  have optionsFit : checkValues call.own *> checkPaths around.tree call.own.words = .ok () := by
    rw [call.checkValues_eq_ok, call.checkPaths_eq_ok]
    rfl
  simp only [outcome, call.topRead, call.notEarly, thresholdEq, call.isCheck, isCommand, if_true,
    runCommand, sessionEq, runCheck, call.ownRead, call.noHelp, Bool.false_eq_true, if_false,
    optionsFit, call.checkConfig_eq valid, checkerNew, Except.mapError, bind, Except.bind, checked,
    ran, resultEq]

end CheckCall

/-! ### Formats -/

section

variable (columns : Nat) (result : CheckResult) (elapsed : String)

/-- A document is written as it is. -/
theorem withoutControlSequences_json :
    withoutControlSequences (checkOutput columns "json" result elapsed) =
      Document.render result ++ "\n" := by
  have plain : IsPlain (Document.render result ++ "\n") :=
    isPlain_append.mpr ⟨Json.isPlain_renderIndented _, by decide⟩
  exact withoutControlSequences_of_isPlain plain

theorem checkOutput_compact :
    checkOutput columns "compact" result elapsed =
      if Compact.render result = "" then "" else Compact.render result ++ "\n" := by
  have notJson : "compact" ≠ "json" := by decide
  simp [checkOutput, notJson]

theorem checkOutput_console :
    checkOutput columns "console" result elapsed =
      Console.render columns result ++ "\n" ++
        ("  Checked " ++ toString result.filesProcessed ++ " files, " ++
          toString result.scopesExamined ++ " scopes in " ++ elapsed ++ " seconds\n") := by
  have notJson : "console" ≠ "json" := by decide
  have notCompact : "console" ≠ "compact" := by decide
  have breakEq : "\n  Checked " = "\n" ++ "  Checked " := rfl
  simp only [checkOutput, notJson, notCompact, if_false, breakEq, String.append_assoc]

end

def escapePath : Path := { root := "/", names := ["\x1b[1m.py"] }

def escapeSource : String := "ab = ac = 0\n"

def escapeTree : FileTree :=
  { root := .folder [("\x1b[1m.py", .file escapeSource.toUTF8)] }

def oneQuarter : Threshold := ⟨1 / 4, by norm_num, by norm_num⟩

theorem readFloat?_oneQuarter : readFloat? "0.25" = some oneQuarter.number := by
  decide +kernel

theorem ofText_escape : Path.ofText "\x1b[1m.py" = { names := escapePath.names } := by
  decide +kernel

theorem follow_escapeTree :
    escapeTree.follow mostLinks [] escapePath.names = .ok escapePath.names :=
  FileTree.follow_of_at? mostLinks rfl nofun (by decide)

theorem find_escapeTree : escapeTree.find escapePath = .ok (.file escapeSource.toUTF8) :=
  FileTree.find_eq_ok_iff.mpr ⟨_, follow_escapeTree, rfl⟩

theorem textExists_escapeTree : textExists escapeTree "\x1b[1m.py" = true := by
  have found : escapeTree.find { names := escapePath.names } = .ok (.file escapeSource.toUTF8) :=
    FileTree.find_eq_ok_iff.mpr ⟨_, follow_escapeTree, rfl⟩
  have noSlash : ("\x1b[1m.py".endsWith "/" || "\x1b[1m.py".endsWith "/.") = false := by
    decide +kernel
  rw [textExists, ofText_escape, noSlash, FileTree.exists?_of_find found]
  rfl

def escapeOptions : CheckOptions where
  topThreshold := some ⟨"0.25", oneQuarter, readFloat?_oneQuarter⟩
  format := some "compact"
  known := by
    rintro _ ⟨⟩
    exact List.mem_of_elem_eq_true rfl

def escapeWords : List String := ["-t", "0.25", "check", "-f", "compact", "--", "\x1b[1m.py"]

def escapeCall : CheckCall escapeTree escapeWords :=
  escapeOptions.call (List.forall_mem_singleton.mpr textExists_escapeTree)

theorem paths_escape : (escapeCall.check .default).paths = [escapePath] := by
  have resolved : escapeTree.resolve { names := escapePath.names } = escapePath := by
    rw [FileTree.resolve, FileTree.placeOf_eq_of_follow follow_escapeTree]
    rfl
  change [escapeTree.resolve (Path.ofText "\x1b[1m.py")] = [escapePath]
  rw [ofText_escape, resolved]

theorem files_escape :
    ((escapeCall.check .default).collect escapeTree).files = [escapePath] := by
  have found : ∀ path ∈ [escapePath], ∃ content, escapeTree.find path = .ok (.file content) :=
    List.forall_mem_singleton.mpr ⟨_, find_escapeTree⟩
  rw [Check.files_collect_eq_keepFirst, paths_escape, Check.filesOf_of_find _ found,
    Check.keepFirst_eq]
  rfl

theorem fileScopes_escapeTree :
    fileScopes escapeTree escapePath = sourceScopes escapeSource "/\x1b[1m.py" :=
  fileScopes_of_find find_escapeTree rfl

theorem reports_escape :
    ((escapeCall.check .default).result escapeTree []).reports =
      (((escapeCall.check .default).sources escapeTree).map
        (SourceScope.harvested false)).filterMap (oneQuarter.matcher []).report? :=
  congrArg CheckResult.reports (Check.ofHarvests_harvestFile _ _ _ _ false)

theorem render_escape :
    Compact.render ((escapeCall.check .default).result escapeTree []) =
      "/\x1b[1m.py:1: ab ~ ac (50%) common=\"a\"" := by
  rw [Compact.render, Compact.lines, reports_escape, Check.sources, files_escape,
    List.flatMap_singleton, fileScopes_escapeTree]
  decide +kernel

end CommandLine

end Lookalike
