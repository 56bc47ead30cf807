import Lookalike.Client
import Lookalike.Proofs.Number.Numeral
import Mathlib.Logic.Basic

/-!
# Settings and where they come from

A configuration takes settings of any kind.  The settings that clients are documented to take
have kinds of their own; they are given one by one, all together, or by the environment with
some of them replaced.  An environment can be read unless one of its two numbers is no number;
a variable that is unset or blank has its default.
-/

namespace Lookalike

/-! ### Settings of the right kinds -/

/-- The settings of a client, each of the kind that it should be of. -/
structure Settings where
  threshold : Number
  propagateNested : Bool
  extensions : List String
  excludedDirectories : List String
  maxFileSize : Int
  maxWorkers : Int
  logLevel : String
  logFormat : String

/-- One setting with its value. -/
inductive Setting where
  | threshold (number : Number)
  | propagateNested (answer : Bool)
  | extensions (texts : List String)
  | excludedDirectories (names : List String)
  | maxFileSize (size : Int)
  | maxWorkers (count : Int)
  | logLevel (name : String)
  | logFormat (text : String)

/-- A setting by its name. -/
def Setting.named : Setting → String × Json
  | threshold number => ("similarity_threshold", .number number)
  | propagateNested answer => ("propagate_nested", .bool answer)
  | extensions texts => ("target_extensions", .array (texts.map .string))
  | excludedDirectories names => ("exclude_dirs", .array (names.map .string))
  | maxFileSize size => ("max_file_size_mb", .int size)
  | maxWorkers count => ("max_workers", .int count)
  | logLevel name => ("log_level", .string name)
  | logFormat text => ("log_format", .string text)

namespace Settings

/-- Replaces one setting. -/
def set (settings : Settings) : Setting → Settings
  | .threshold number => { settings with threshold := number }
  | .propagateNested answer => { settings with propagateNested := answer }
  | .extensions texts => { settings with extensions := texts }
  | .excludedDirectories names => { settings with excludedDirectories := names }
  | .maxFileSize size => { settings with maxFileSize := size }
  | .maxWorkers count => { settings with maxWorkers := count }
  | .logLevel name => { settings with logLevel := name }
  | .logFormat text => { settings with logFormat := text }

/-- The configuration with these settings. -/
def config (settings : Settings) : Config :=
  { threshold := .number settings.threshold
    propagateNested := settings.propagateNested
    extensions := settings.extensions
    excludedDirectories := settings.excludedDirectories
    maxFileSize := .int settings.maxFileSize
    maxWorkers := .int settings.maxWorkers
    logLevel := .string settings.logLevel
    logFormat := settings.logFormat }

end Settings

namespace Config

@[simp]
theorem texts_map_string (given : List String) : texts (.array (given.map .string)) = given := by
  rw [texts, List.filterMap_map]
  exact List.filterMap_some

/-- A setting of the right kind replaces the one there was. -/
theorem set_named (settings : Settings) (setting : Setting) :
    settings.config.set setting.named.1 setting.named.2 = .ok (settings.set setting).config := by
  cases setting <;> simp [Setting.named, set, Json.int, Settings.config, Settings.set]

theorem setAll_map_named (settings : Settings) (overrides : List Setting) :
    settings.config.setAll (overrides.map Setting.named) =
      .ok (overrides.foldl Settings.set settings).config := by
  induction overrides generalizing settings with
  | nil => rfl
  | cons setting overrides ih =>
      have rest := ih (settings.set setting)
      rw [setAll] at rest
      simp only [setAll, List.map_cons, List.foldlM_cons, set_named, bind, Except.bind, rest,
        List.foldl_cons]

end Config

/-! ### The environment -/

namespace Environment

/-- What a variable says, unless it is unset or blank. -/
def said? (environment : Environment) (name : String) : Option String :=
  (environment.get? name).filter fun raw => !(strip raw).isEmpty

theorem read_eq {Value : Type} (environment : Environment) (name : String) (default : Value)
    (reader : String → Option Value) (error : String → String → ConfigError) :
    environment.read name default reader error =
      match environment.said? name with
      | none => .ok default
      | some raw =>
          match reader raw with
          | some value => .ok value
          | none => .error (error name raw) := by
  cases given : environment.get? name with
  | none => simp [read, said?, given]
  | some raw =>
      cases blank : (strip raw).isEmpty <;>
        cases value : reader raw <;>
        simp [read, said?, given, blank, value, Option.filter]

/-- Whether what a variable says can be read. -/
def Reads {Value : Type} (environment : Environment) (reader : String → Option Value)
    (name : String) : Prop :=
  ∀ raw ∈ environment.said? name, (reader raw).isSome

theorem read_of_reads {Value : Type} {environment : Environment} {name : String}
    {default : Value} {reader : String → Option Value} {error : String → String → ConfigError}
    (reads : environment.Reads reader name) :
    environment.read name default reader error =
      .ok (((environment.said? name).bind reader).getD default) := by
  rw [read_eq]
  cases said : environment.said? name with
  | none => rfl
  | some raw =>
      obtain ⟨value, valueEq⟩ := Option.isSome_iff_exists.mp (reads raw said)
      simp [valueEq]

theorem exists_read_eq_error {Value : Type} {environment : Environment} {name : String}
    {reader : String → Option Value} (unreadable : ¬environment.Reads reader name)
    (default : Value) (error : String → String → ConfigError) :
    ∃ raw, environment.read name default reader error = .error (error name raw) := by
  simp only [Reads, Option.mem_def, not_forall, Bool.not_eq_true, Option.isSome_eq_false_iff,
    Option.isNone_iff_eq_none] at unreadable
  obtain ⟨raw, said, valueEq⟩ := unreadable
  exact ⟨raw, by simp [read_eq, said, valueEq]⟩

/-- Whether the numbers that an environment gives can be read. -/
structure IsReadable (environment : Environment) : Prop where
  threshold : environment.Reads readFloat? "NAMESAKE_SIMILARITY_THRESHOLD"
  maxWorkers : environment.Reads readInteger? "NAMESAKE_MAX_WORKERS"

end Environment

/-- The number of workers that there are by default can be told. -/
theorem Number.isWritable_four : (Number.int 4).isWritable = true := by
  decide +kernel

namespace Settings

/-- The settings that an environment gives, with the default for what cannot be read. -/
def ofEnvironment (environment : Environment) : Settings :=
  { threshold := .float (((environment.said? "NAMESAKE_SIMILARITY_THRESHOLD").bind readFloat?).getD
      Threshold.defaultNumber)
    propagateNested :=
      Environment.saysYes ((environment.get? "NAMESAKE_PROPAGATE_NESTED").getD "")
    extensions := ({} : Config).extensions
    excludedDirectories := ({} : Config).excludedDirectories
    maxFileSize := 5
    maxWorkers := ((environment.said? "NAMESAKE_MAX_WORKERS").bind readInteger?).getD 4
    logLevel := upperCase ((environment.get? "NAMESAKE_LOG_LEVEL").getD "INFO")
    logFormat := ({} : Config).logFormat }

/-- The number of workers that an environment gives can be told. -/
theorem isWritable_maxWorkers_ofEnvironment (environment : Environment) :
    (Number.int (ofEnvironment environment).maxWorkers).isWritable = true := by
  have workersEq : (ofEnvironment environment).maxWorkers =
      ((environment.said? "NAMESAKE_MAX_WORKERS").bind readInteger?).getD 4 := rfl
  rw [workersEq]
  cases read : (environment.said? "NAMESAKE_MAX_WORKERS").bind readInteger? with
  | none => exact Number.isWritable_four
  | some workers =>
      obtain ⟨raw, -, workersRead⟩ := Option.bind_eq_some_iff.mp read
      simpa [Number.isWritable] using natAbs_lt_of_readInteger? workersRead

end Settings

namespace Config

theorem ofEnvironment_of_isReadable {environment : Environment}
    (readable : environment.IsReadable) :
    ofEnvironment environment = .ok (Settings.ofEnvironment environment).config := by
  simp only [ofEnvironment, Environment.read_of_reads readable.threshold,
    Environment.read_of_reads readable.maxWorkers, bind, Except.bind, pure, Except.pure]
  rfl

/-- An environment that cannot be read is refused for one of its numbers. -/
theorem exists_ofEnvironment_eq_error {environment : Environment}
    (unreadable : ¬environment.IsReadable) :
    ∃ name raw, ofEnvironment environment = .error (.notANumber name raw) ∨
      ofEnvironment environment = .error (.notAnInteger name raw) := by
  by_cases reads : environment.Reads readFloat? "NAMESAKE_SIMILARITY_THRESHOLD"
  · have workers : ¬environment.Reads readInteger? "NAMESAKE_MAX_WORKERS" :=
      fun readsWorkers => unreadable ⟨reads, readsWorkers⟩
    obtain ⟨raw, failed⟩ := Environment.exists_read_eq_error workers 4 .notAnInteger
    refine ⟨"NAMESAKE_MAX_WORKERS", raw, .inr ?_⟩
    simp only [ofEnvironment, Environment.read_of_reads reads, failed, bind, Except.bind]
  · obtain ⟨raw, failed⟩ :=
      Environment.exists_read_eq_error reads Threshold.defaultNumber .notANumber
    refine ⟨"NAMESAKE_SIMILARITY_THRESHOLD", raw, .inl ?_⟩
    simp only [ofEnvironment, failed, bind, Except.bind]

end Config

end Lookalike
