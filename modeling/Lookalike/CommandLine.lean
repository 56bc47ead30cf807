import Lookalike.Client
import Lookalike.CommandLine.Words
import Lookalike.Report.Compact
import Lookalike.Report.Console
import Lookalike.Report.Document
import Lookalike.Text.ControlSequence

/-!
# The command line

Three commands: `check` reports the similar names in files, `compare` compares two texts,
and `mcp` serves the tools for agents.  The settings come from the environment; options
replace some of them.
-/

namespace Lookalike

/-- Everything around a program that it can see. -/
structure Surroundings where
  tree : FileTree
  environment : Environment := []
  /-- The width of the terminal. -/
  columns : Nat := 80
  /-- Whether the tools for agents can be served. -/
  servesTools : Bool := true

/-- What a program does: its exit status and what it writes. -/
structure Outcome where
  exit : Nat := 0
  /-- The output, given how long the work took. -/
  output : (elapsed : String) → String := fun _ => ""
  errors : String := ""
  /-- The way in which tools are served from then on. -/
  serving : Option String := none

namespace Outcome

/-- A failure that is told in one line. -/
def failure (message : String) : Outcome :=
  { exit := 1, errors := "Error: " ++ message ++ "\n" }

/-- An outcome that writes no control sequences. -/
def plain (outcome : Outcome) : Outcome :=
  { outcome with
    output := fun elapsed => withoutControlSequences (outcome.output elapsed)
    errors := withoutControlSequences outcome.errors }

end Outcome

namespace CommandLine

/-! ### Commands -/

/-- The option for the similarity threshold. -/
def thresholdForm : OptionForm :=
  { key := .threshold, short := some 't', long := "--threshold", takesValue := true }

/-- The option for a detailed log. -/
def verboseForm : OptionForm := { key := .verbose, short := some 'v', long := "--verbose" }

/-- The option for the format of a report. -/
def formatForm : OptionForm :=
  { key := .format, short := some 'f', long := "--format", takesValue := true }

/-- The option for the way in which tools are served. -/
def transportForm : OptionForm :=
  { key := .transport, long := "--transport", takesValue := true }

/-- The option that asks for help. -/
def helpForm : OptionForm := { key := .help, long := "--help" }

/-- The names of the commands. -/
def commandNames : List String := ["check", "compare", "mcp"]

/-- What comes before a command. -/
def topForm : CommandForm :=
  { callWords := "cli", synopsis := "[OPTIONS] COMMAND [ARGS]...", mixed := false
    options := [{ key := .version, long := "--version" }, thresholdForm, helpForm] }

/-- The command that checks files. -/
def checkForm : CommandForm :=
  { callWords := "cli check", synopsis := "[OPTIONS] [PATHS]..."
    options :=
      [thresholdForm, { key := .nested, long := "--nested" }, formatForm,
        { key := .failOnMatch, long := "--fail-on-match" },
        { key := .progress, long := "--progress" }, verboseForm, helpForm] }

/-- The command that compares two texts. -/
def compareForm : CommandForm :=
  { callWords := "cli compare", synopsis := "[OPTIONS] FIRST SECOND", options := [helpForm] }

/-- The command that serves tools. -/
def serveForm : CommandForm :=
  { callWords := "cli mcp", synopsis := "[OPTIONS]"
    options := [transportForm, verboseForm, helpForm] }

/-! ### Values of options -/

/-- Reads a threshold. -/
def readThreshold (value : String) : Except UsageFault Binary64 :=
  match readFloat? value with
  | some number => .ok number
  | none => .error (.noNumber thresholdForm.hint value)

/-- Checks that a value is one of several choices. -/
def readChoice (form : OptionForm) (choices : List String) (value : String) :
    Except UsageFault String :=
  if choices.contains value then .ok value
  else .error (.noChoice form.hint value choices)

/-- The formats of a report. -/
def formats : List String := ["console", "compact", "json"]

/-- The ways in which tools are served. -/
def transports : List String := ["stdio", "sse"]

/-- The format that is in force when none is given. -/
def defaultFormat : String := "console"

/-- Checks the value of one option. -/
def checkValue (read : ReadWords) (key : OptionKey) : Except UsageFault Unit :=
  match key, read.value? key with
  | .threshold, some value => (readThreshold value).map fun _ => ()
  | .format, some value => (readChoice formatForm formats value).map fun _ => ()
  | .transport, some value => (readChoice transportForm transports value).map fun _ => ()
  | _, _ => .ok ()

/-- Checks the values of all options in the order of their first mention. -/
def checkValues (read : ReadWords) : Except UsageFault Unit :=
  read.keys.forM (checkValue read)

/-- The threshold that is given as an option. -/
def givenThreshold (read : ReadWords) : Option Binary64 :=
  (read.value? .threshold).bind readFloat?

/-- Whether anything is at the end of a path as it is written: what ends in a slash has to
be a folder. -/
def textExists (tree : FileTree) (text : String) : Bool :=
  let path := Path.ofText text
  if text.isEmpty then false
  else if text.endsWith "/" || text.endsWith "/." then tree.isFolder path
  else tree.exists? path

/-- Checks that the paths of a check exist. -/
def checkPaths (tree : FileTree) (paths : List String) : Except UsageFault Unit :=
  match paths.find? fun path => !textExists tree path with
  | some path => .error (.pathMissing "'[PATHS]...'" path)
  | none => .ok ()

/-! ### Running -/

/-- What comes of words that do not fit. -/
def misuse (command : CommandForm) (fault : UsageFault) : Outcome :=
  { exit := 2, errors := fault.report command }

/-- What comes of a request for help. -/
def help (command : CommandForm) : Outcome :=
  { output := fun _ => "Usage: " ++ command.callWords ++ " " ++ command.synopsis ++ "\n" }

/-- What comes of a request for the version. -/
def showVersion : Outcome :=
  { output := fun _ => "cli, version " ++ version ++ "\n" }

/-- Replaces the threshold if one is given. -/
def withThreshold (config : Config) (threshold : Option Binary64) : Config :=
  match threshold with
  | some number => { config with threshold := .float number }
  | none => config

/-- The settings of the environment with a threshold in place of the environment's, once
they have been checked. -/
def sessionConfig (environment : Environment) (threshold : Option Binary64) :
    Except ConfigError Config := do
  let config := withThreshold (← Config.ofEnvironment environment) threshold
  let _ ← config.validate
  return config

/-- The settings of a check: those of the session with the check's own options. -/
def checkConfig (session : Config) (read : ReadWords) : Except ConfigError Config := do
  let chosen := withThreshold session (givenThreshold read)
  let config := { chosen with propagateNested := chosen.propagateNested || read.has .nested }
  let _ ← config.validate
  return config

/-- The output of a check in a format. -/
def checkOutput (columns : Nat) (format : String) (result : CheckResult) (elapsed : String) :
    String :=
  if format = "json" then Document.render result ++ "\n"
  else if format = "compact" then
    let report := Compact.render result
    if report.isEmpty then "" else report ++ "\n"
  else
    Console.render columns result ++ "\n  Checked " ++ toString result.filesProcessed ++
      " files, " ++ toString result.scopesExamined ++ " scopes in " ++ elapsed ++ " seconds\n"

/-- What comes of a check's result. -/
def checkOutcome (columns : Nat) (read : ReadWords) (result : CheckResult) : Outcome :=
  { exit := if read.has .failOnMatch && result.matchesFound ≠ 0 then 1 else 0
    output := checkOutput columns ((read.value? .format).getD defaultFormat) result
    errors :=
      if result.errors = 0 then ""
      else "  " ++ toString result.errors ++ " error(s) during the check; see log output.\n" }

/-- Runs the command that checks files.  The number of workers comes from the environment, where
it can be told, so that no error of a check is about it here. -/
def runCheck (around : Surroundings) (session : Config) (words : List String) : Outcome :=
  match readWords checkForm words with
  | .error fault => misuse checkForm fault
  | .ok read =>
      if read.has .help then help checkForm
      else
        match checkValues read *> checkPaths around.tree read.words with
        | .error fault => misuse checkForm fault
        | .ok () =>
            match checkConfig session read with
            | .error error => .failure error.message
            | .ok config =>
                match (Client.new config).mapError CheckError.config >>= fun client =>
                    client.check around.tree (read.words.map Path.ofText) with
                | .error error => .failure error.message
                | .ok finished => checkOutcome around.columns read finished.result

/-- The lines about a comparison. -/
def comparisonLines (comparison : Comparison) : List String :=
  ["\"" ++ comparison.first ++ "\" and \"" ++ comparison.second ++ "\" are " ++
      roundedPercentage comparison.score ++ "% similar.",
    "One of the longest common sequences is \"" ++ comparison.evidence ++ "\"."] ++
    if comparison.exceeds then
      ["Above the similarity threshold of " ++ comparison.threshold.number.fixed 2 ++ "."]
    else []

/-- Runs the command that compares two texts. -/
def runCompare (session : Config) (words : List String) : Outcome :=
  match readWords compareForm words with
  | .error fault => misuse compareForm fault
  | .ok read =>
      if read.has .help then help compareForm
      else
        match read.words with
        | [] => misuse compareForm (.wordMissing "FIRST")
        | [_] => misuse compareForm (.wordMissing "SECOND")
        | [first, second] =>
            match Threshold.ofJson session.threshold with
            | .error error => .failure error.message
            | .ok threshold =>
                { output := fun _ =>
                    String.join ((comparisonLines (compareTexts first second threshold)).map
                      (· ++ "\n")) }
        | _ :: _ :: further => misuse compareForm (.wordsUnexpected further)

/-- Runs the command that serves tools. -/
def runServe (around : Surroundings) (words : List String) : Outcome :=
  match readWords serveForm words with
  | .error fault => misuse serveForm fault
  | .ok read =>
      if read.has .help then help serveForm
      else
        match checkValues read with
        | .error fault => misuse serveForm fault
        | .ok () =>
            if ¬ read.words.isEmpty then misuse serveForm (.wordsUnexpected read.words)
            else if around.servesTools then
              { serving := some ((read.value? .transport).getD "stdio") }
            else
              .failure
                "MCP dependencies not installed.\nInstall with:  pip install 'namesake[mcp]'"

/-- The outcome that a request for help or for the version has before anything else. -/
def early? (command : CommandForm) (read : ReadWords) : Option Outcome :=
  match read.keys.find? fun key => key == .help || key == .version with
  | some .help => some (help command)
  | some _ => some showVersion
  | none => none

/-- What comes of a word that names no command.  A word that looks like an option is read
as one first. -/
def unknownCommand (words : List String) (name : String) : Outcome :=
  let fault := misuse topForm (.unknownCommand name (closeWords name commandNames))
  if isOptionWord name.toList then
    match readWords topForm words with
    | .error optionFault => misuse topForm optionFault
    | .ok read =>
        match early? topForm read, checkValues read with
        | some outcome, _ => outcome
        | none, .error valueFault => misuse topForm valueFault
        | none, .ok () => fault
  else fault

/-- The threshold of a session: the option's value, or else the environment's unless it is
empty. -/
def sessionThreshold (environment : Environment) (read : ReadWords) :
    Except UsageFault (Option Binary64) :=
  match (read.value? .threshold).orElse fun _ =>
      (environment.get? "NAMESAKE_SIMILARITY_THRESHOLD").filter (¬ ·.isEmpty) with
  | none => .ok none
  | some value => (readThreshold value).map some

/-- Runs a command in a session. -/
def runCommand (around : Surroundings) (threshold : Option Binary64) (name : String)
    (words : List String) : Outcome :=
  match sessionConfig around.environment threshold with
  | .error error => .failure error.message
  | .ok session =>
      if name = "check" then runCheck around session words
      else if name = "compare" then runCompare session words
      else runServe around words

/-- What comes of the program's words. -/
def outcome (around : Surroundings) (words : List String) : Outcome :=
  match readWords topForm words with
  | .error fault => misuse topForm fault
  | .ok read =>
      match early? topForm read with
      | some outcome => outcome
      | none =>
          match sessionThreshold around.environment read with
          | .error fault => misuse topForm fault
          | .ok threshold =>
              match read.words with
              | [] => misuse topForm .commandMissing
              | name :: rest =>
                  if commandNames.contains name then runCommand around threshold name rest
                  else unknownCommand read.words name

/-- Runs the program with its words. -/
def run (around : Surroundings) (words : List String) : Outcome :=
  (outcome around words).plain

end CommandLine

end Lookalike
