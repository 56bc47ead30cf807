import Lookalike.Number.Numeral
import Lookalike.Text.UpperCase
import Lookalike.Threshold

/-!
# Configuration

The settings of a run.  They are taken as they are given, by a caller or by the
environment, and checked as a whole before any matching begins: `Config.validate`
yields the threshold to match with or the first setting that is wrong.
-/

namespace Lookalike

-- Powers of whole numbers are the built-in ones, whatever else is in sight.
attribute [local instance (1100)] instPowNat

/-- The settings of a run, as they are given. -/
structure Config where
  threshold : Json := .float Threshold.defaultNumber
  /-- Whether enclosing scopes also see the names of the scopes nested in them. -/
  propagateNested : Bool := false
  extensions : List String := [".py"]
  excludedDirectories : List String :=
    ["__pycache__", ".git", ".venv", "venv", ".pytest_cache", "dist", "build"]
  maxFileSize : Number := .int 5
  maxWorkers : Number := .int 4
  logLevel : Json := .string "INFO"
  logFormat : String := "%(asctime)s - %(name)s - %(levelname)s - %(message)s"
  deriving Inhabited

/-- What is wrong with a configuration. -/
inductive ConfigError where
  | threshold (error : ThresholdError)
  | unknownLogLevel (shown : String)
  | tooFewWorkers (count : Number)
  | noFileSize (size : Number)
  /-- An environment variable that should hold a number holds another text. -/
  | notANumber (variableName raw : String)
  /-- An environment variable that should hold an integer holds another text. -/
  | notAnInteger (variableName raw : String)
  /-- There is no setting of this name. -/
  | unexpectedSetting (name : String)
  /-- An integer that is out of range has more digits than a message takes. -/
  | tooManyDigits
  deriving DecidableEq

/-- What is said about a wrong configuration. -/
def ConfigError.message : ConfigError → String
  | threshold error => error.message
  | unknownLogLevel shown =>
      "Unknown log level '" ++ shown ++ "'. Supported: DEBUG, INFO, WARNING, ERROR, CRITICAL."
  | tooFewWorkers count => "max_workers must be at least 1, got " ++ count.text ++ "."
  | noFileSize size => "max_file_size_mb must be positive, got " ++ size.text ++ "."
  | notANumber variableName raw => variableName ++ "=" ++ quoted raw ++ " is not a number."
  | notAnInteger variableName raw => variableName ++ "=" ++ quoted raw ++ " is not an integer."
  | unexpectedSetting name =>
      "NamesakeConfig.__init__() got an unexpected keyword argument '" ++ name ++ "'"
  | tooManyDigits =>
      "Exceeds the limit (" ++ toString greatestDigitCount ++ " digits) for integer string " ++
        "conversion; use sys.set_int_max_str_digits() to increase the limit"

/-- Whether a number has a text that a message takes: integers of very many digits are not
written out. -/
def Number.isWritable : Number → Bool
  | int value => value.natAbs < 10 ^ greatestDigitCount
  | float _ => true

/-- What is wrong with a number that is out of range.  The number is told unless it cannot be
written out. -/
def ConfigError.telling (error : Number → ConfigError) (number : Number) : ConfigError :=
  if number.isWritable then error number else .tooManyDigits

/-- The names of the log levels. -/
def logLevels : List String :=
  ["CRITICAL", "FATAL", "ERROR", "WARN", "WARNING", "INFO", "DEBUG", "NOTSET"]

/-- Whether a setting names a log level. -/
def isLogLevel : Json → Bool
  | .string name => logLevels.contains name
  | _ => false

namespace Config

/-- The threshold as it is given; zero if it is no number at all. -/
def thresholdNumber (config : Config) : Number :=
  match config.threshold with
  | .number number => number
  | _ => .float (.finite 0)

/-- Checks the settings in order: threshold, log level, workers, file size.  A
configuration that passes has a usable threshold. -/
def validate (config : Config) : Except ConfigError Threshold := do
  let threshold ← (Threshold.ofJson config.threshold).mapError ConfigError.threshold
  if ¬ isLogLevel config.logLevel then throw (.unknownLogLevel config.logLevel.display)
  if config.maxWorkers.ltInt 1 then throw (.telling .tooFewWorkers config.maxWorkers)
  if config.maxFileSize.leInt 0 then throw (.telling .noFileSize config.maxFileSize)
  return threshold

/-! ### Settings by name -/

/-- The texts of a list of texts. -/
def texts : Json → List String
  | .array items => items.filterMap fun item =>
      match item with
      | .string text => some text
      | _ => none
  | _ => []

/-- Replaces one setting; a value of another kind than the setting's leaves it as it is. -/
def set (config : Config) (name : String) (value : Json) : Except ConfigError Config :=
  match name, value with
  | "similarity_threshold", value => .ok { config with threshold := value }
  | "propagate_nested", .bool value => .ok { config with propagateNested := value }
  | "target_extensions", value => .ok { config with extensions := texts value }
  | "exclude_dirs", value => .ok { config with excludedDirectories := texts value }
  | "max_file_size_mb", .number value => .ok { config with maxFileSize := value }
  | "max_workers", .number value => .ok { config with maxWorkers := value }
  | "log_level", value => .ok { config with logLevel := value }
  | "log_format", .string value => .ok { config with logFormat := value }
  | "propagate_nested", _ => .ok config
  | "max_file_size_mb", _ => .ok config
  | "max_workers", _ => .ok config
  | "log_format", _ => .ok config
  | name, _ => .error (.unexpectedSetting name)

/-- Replaces settings in order. -/
def setAll (config : Config) (settings : List (String × Json)) : Except ConfigError Config :=
  settings.foldlM (fun config setting => config.set setting.1 setting.2) config

/-- Sorts texts by code points, each kept once. -/
def sortedTexts (values : List String) : List String :=
  (values.mergeSort (fun left right => decide (left ≤ right))).eraseDups

/-- All settings by name, those that are sets sorted. -/
def toJson (config : Config) : Json :=
  .object
    [("similarity_threshold", config.threshold),
      ("propagate_nested", .bool config.propagateNested),
      ("target_extensions", .array ((sortedTexts config.extensions).map .string)),
      ("exclude_dirs", .array ((sortedTexts config.excludedDirectories).map .string)),
      ("max_file_size_mb", .number config.maxFileSize),
      ("max_workers", .number config.maxWorkers),
      ("log_level", config.logLevel),
      ("log_format", .string config.logFormat)]

end Config

/-! ### The environment -/

/-- Environment variables by name. -/
abbrev Environment := List (String × String)

namespace Environment

/-- The value of a variable, if it is set. -/
def get? (environment : Environment) (name : String) : Option String :=
  (environment.find? (·.1 == name)).map (·.2)

/-- Reads a variable with a reader of its own; a variable that is unset or blank has the
default. -/
def read {Value : Type} (environment : Environment) (name : String) (default : Value)
    (reader : String → Option Value) (error : String → String → ConfigError) :
    Except ConfigError Value :=
  match environment.get? name with
  | none => .ok default
  | some raw =>
      if (strip raw).isEmpty then .ok default
      else
        match reader raw with
        | some value => .ok value
        | none => .error (error name raw)

/-- Whether a text says yes.  Upper and lower case are the same; only ASCII letters have
a lower-case form that occurs in one of the words. -/
def saysYes (raw : String) : Bool :=
  ["1", "true", "yes", "on"].contains (String.ofList (raw.toList.map Char.toLower))

end Environment

/-- The settings that the environment gives. -/
def Config.ofEnvironment (environment : Environment) : Except ConfigError Config := do
  let threshold ← environment.read "NAMESAKE_SIMILARITY_THRESHOLD" Threshold.defaultNumber
    readFloat? .notANumber
  let workers ← environment.read "NAMESAKE_MAX_WORKERS" 4 readInteger? .notAnInteger
  return {
    threshold := .float threshold
    propagateNested := Environment.saysYes ((environment.get? "NAMESAKE_PROPAGATE_NESTED").getD "")
    maxWorkers := .int workers
    logLevel := .string (upperCase ((environment.get? "NAMESAKE_LOG_LEVEL").getD "INFO")) }

/-- The version that status reports show. -/
def version : String := "1.0.0"

/-- A small status report on a configuration. -/
def Config.health (config : Config) : Json :=
  .object
    [("version", .string version),
      ("similarity_threshold", config.threshold),
      ("propagate_nested", .bool config.propagateNested)]

end Lookalike
