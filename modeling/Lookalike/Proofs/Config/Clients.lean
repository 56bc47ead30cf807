import Lookalike.Proofs.Check.Preparation
import Lookalike.Proofs.Config.Settings
import Lookalike.Proofs.Number.Integers

/-!
# Valid clients

A client is built just if its settings can be read and are valid: a threshold above zero and
at most one, a known log level, at least one worker, and some size for files.  It then has
these settings as they were given, and the exact threshold.  All other settings are refused,
except for integers that are too large to be refused properly: an integer that no
floating-point number comes near to, for a threshold, and one with more digits than a message
takes, for the other two.  These make the refusal itself go wrong.
-/

namespace Lookalike

/-! ### Thresholds -/

/-- The exact value of a number; the infinities and NaN have none. -/
def Number.toRat? : Number → Option ℚ
  | int value => some value
  | float value => value.toRat?

namespace Threshold

variable {number : Number} {threshold : Threshold}

theorem ofNumber_int_one {value : ℚ} (positive : 0 < value) (le_one : value ≤ 1)
    (isOne : value = 1) : ofNumber (.int 1) = .ok ⟨value, positive, le_one⟩ := by
  subst isOne
  have converted : Number.toFloat? (.int 1) = some (.finite 1) := by decide +kernel
  simp [ofNumber, converted, Binary64.toRat?]

/-- A number is a threshold just if its exact value is one. -/
theorem ofNumber_eq_ok_iff :
    ofNumber number = .ok threshold ↔ number.toRat? = some threshold.value := by
  obtain ⟨value, positive, le_one⟩ := threshold
  cases number with
  | int given =>
      simp only [Number.toRat?, Option.some_inj]
      constructor
      · intro read
        have converted := toFloat?_of_ofNumber read
        obtain ⟨rfl, rfl⟩ :=
          Binary64.eq_one_of_toRat?_of_ofInt? converted rfl positive le_one
        rfl
      · rintro rfl
        have isOne : given = 1 := by
          have above : 0 < given := by exact_mod_cast positive
          have below : given ≤ 1 := by exact_mod_cast le_one
          omega
        subst isOne
        exact ofNumber_int_one positive le_one Int.cast_one
  | float given =>
      simp only [Number.toRat?, ofNumber, Number.toFloat?]
      cases exact : given.toRat? with
      | none => simp
      | some quotient =>
          by_cases bounds : 0 < quotient ∧ quotient ≤ 1
          · simp [bounds]
          · have differs : quotient ≠ value := by
              rintro rfl
              exact bounds ⟨positive, le_one⟩
            simp [bounds, differs]

/-- The integers that are too large to be looked at as thresholds. -/
theorem ofNumber_eq_tooLarge_iff :
    ofNumber number = .error .tooLarge ↔
      ∃ value, number = .int value ∧ 2 ^ 1024 ≤ value.natAbs + 2 ^ 970 := by
  have onlyUnconverted :
      ofNumber number = .error .tooLarge ↔ number.toFloat? = none := by
    cases converted : number.toFloat? with
    | none => simp [ofNumber, converted]
    | some float =>
        cases exact : float.toRat? with
        | none => simp [ofNumber, converted, exact]
        | some quotient =>
            by_cases bounds : 0 < quotient ∧ quotient ≤ 1 <;>
              simp [ofNumber, converted, exact, bounds]
  rw [onlyUnconverted]
  cases number with
  | int value =>
      rw [Number.toFloat?, Binary64.ofInt?_eq_none_iff]
      constructor
      · intro large
        exact ⟨value, rfl, large⟩
      · rintro ⟨_, ⟨⟩, large⟩
        exact large
  | float value =>
      constructor
      · intro unconverted
        cases unconverted
      · rintro ⟨_, ⟨⟩, _⟩

end Threshold

/-- Whether the exact value of a number is above zero and at most one. -/
def Number.IsThreshold (number : Number) : Prop :=
  ∃ value, number.toRat? = some value ∧ 0 < value ∧ value ≤ 1

theorem Threshold.exists_ofNumber_eq_ok_iff {number : Number} :
    (∃ threshold, ofNumber number = .ok threshold) ↔ number.IsThreshold := by
  simp only [ofNumber_eq_ok_iff]
  constructor
  · rintro ⟨threshold, valueEq⟩
    exact ⟨threshold.value, valueEq, threshold.positive, threshold.le_one⟩
  · rintro ⟨value, valueEq, positive, le_one⟩
    exact ⟨⟨value, positive, le_one⟩, valueEq⟩

/-! ### Errors -/

/-- Whether an error is a refusal, which callers are told to expect, and not a failure on the
way to one. -/
def ConfigError.isRefusal : ConfigError → Bool
  | threshold .tooLarge => false
  | tooManyDigits => false
  | unexpectedSetting _ => false
  | _ => true

theorem ConfigError.isRefusal_threshold {error : ThresholdError} :
    (ConfigError.threshold error).isRefusal = false ↔ error = .tooLarge := by
  cases error <;> simp [isRefusal]

theorem ConfigError.isRefusal_telling {error : Number → ConfigError} {value : Int}
    (refuses : ∀ number, (error number).isRefusal = true) :
    (ConfigError.telling error (.int value)).isRefusal = false ↔
      10 ^ greatestDigitCount ≤ value.natAbs := by
  by_cases writable : value.natAbs < 10 ^ greatestDigitCount
  · simp [telling, Number.isWritable, writable, refuses, not_le.mpr writable]
  · simp [telling, Number.isWritable, writable, isRefusal, not_lt.mp writable]

theorem Config.validate_eq (config : Config) :
    config.validate =
      match Threshold.ofJson config.threshold with
      | .error error => .error (.threshold error)
      | .ok threshold =>
          if isLogLevel config.logLevel = false then
            .error (.unknownLogLevel config.logLevel.display)
          else if config.maxWorkers.ltInt 1 then .error (.telling .tooFewWorkers config.maxWorkers)
          else if config.maxFileSize.leInt 0 then .error (.telling .noFileSize config.maxFileSize)
          else .ok threshold := by
  cases read : Threshold.ofJson config.threshold <;>
    cases level : isLogLevel config.logLevel <;>
    cases workers : config.maxWorkers.ltInt 1 <;>
    cases size : config.maxFileSize.leInt 0 <;>
    simp [validate, read, level, workers, size, Except.mapError, bind, Except.bind, pure,
      Except.pure, throw, throwThe, MonadExceptOf.throw]

/-! ### Valid settings -/

namespace Settings

structure IsValid (settings : Settings) : Prop where
  threshold : settings.threshold.IsThreshold
  logLevel : settings.logLevel ∈ logLevels
  maxWorkers : 1 ≤ settings.maxWorkers
  maxFileSize : 0 < settings.maxFileSize

/-- Whether the first invalid one among the settings is an integer that is too large for its
refusal. -/
inductive Overflows (settings : Settings) : Prop where
  | threshold (value : Int) (given : settings.threshold = .int value)
      (large : 2 ^ 1024 ≤ value.natAbs + 2 ^ 970)
  | maxWorkers (threshold : settings.threshold.IsThreshold)
      (logLevel : settings.logLevel ∈ logLevels) (few : settings.maxWorkers < 1)
      (large : 10 ^ greatestDigitCount ≤ settings.maxWorkers.natAbs)
  | maxFileSize (threshold : settings.threshold.IsThreshold)
      (logLevel : settings.logLevel ∈ logLevels) (enough : 1 ≤ settings.maxWorkers)
      (none : settings.maxFileSize ≤ 0)
      (large : 10 ^ greatestDigitCount ≤ settings.maxFileSize.natAbs)

variable {settings : Settings} {threshold : Threshold}

theorem validate_config_eq_ok_iff :
    settings.config.validate = .ok threshold ↔
      settings.IsValid ∧ settings.threshold.toRat? = some threshold.value := by
  have readIff :
      Threshold.ofNumber settings.threshold = .ok threshold ↔
        settings.threshold.toRat? = some threshold.value := Threshold.ofNumber_eq_ok_iff
  simp only [Config.validate_eq_ok_iff, config, Threshold.ofJson, readIff, isLogLevel,
    List.contains_iff_mem, Number.ltInt, Number.leInt, decide_eq_false_iff_not, not_lt, not_le]
  constructor
  · rintro ⟨read, level, workers, size⟩
    exact ⟨⟨⟨_, read, threshold.positive, threshold.le_one⟩, level, workers, size⟩, read⟩
  · rintro ⟨⟨-, level, workers, size⟩, read⟩
    exact ⟨read, level, workers, size⟩

theorem overflows_iff_of_ofNumber_eq_error {error : ThresholdError}
    (read : Threshold.ofNumber settings.threshold = .error error) :
    settings.Overflows ↔ error = .tooLarge := by
  have noThreshold : ¬settings.threshold.IsThreshold := by
    rw [← Threshold.exists_ofNumber_eq_ok_iff, read]
    simp
  rw [← Except.error.injEq, ← read, Threshold.ofNumber_eq_tooLarge_iff]
  constructor
  · intro overflows
    cases overflows with
    | threshold value given large => exact ⟨value, given, large⟩
    | maxWorkers threshold => exact absurd threshold noThreshold
    | maxFileSize threshold => exact absurd threshold noThreshold
  · rintro ⟨value, given, large⟩
    exact .threshold value given large

theorem overflows_iff_of_ofNumber_eq_ok
    (read : Threshold.ofNumber settings.threshold = .ok threshold) :
    settings.Overflows ↔
      settings.logLevel ∈ logLevels ∧
        (settings.maxWorkers < 1 ∧ 10 ^ greatestDigitCount ≤ settings.maxWorkers.natAbs ∨
          1 ≤ settings.maxWorkers ∧ settings.maxFileSize ≤ 0 ∧
            10 ^ greatestDigitCount ≤ settings.maxFileSize.natAbs) := by
  have isThreshold : settings.threshold.IsThreshold :=
    Threshold.exists_ofNumber_eq_ok_iff.mp ⟨threshold, read⟩
  constructor
  · intro overflows
    cases overflows with
    | threshold value given large =>
        have tooLarge := Threshold.ofNumber_eq_tooLarge_iff.mpr ⟨value, given, large⟩
        cases read.symm.trans tooLarge
    | maxWorkers _ logLevel few large => exact ⟨logLevel, .inl ⟨few, large⟩⟩
    | maxFileSize _ logLevel enough none large => exact ⟨logLevel, .inr ⟨enough, none, large⟩⟩
  · rintro ⟨logLevel, ⟨few, large⟩ | ⟨enough, none, large⟩⟩
    · exact .maxWorkers isThreshold logLevel few large
    · exact .maxFileSize isThreshold logLevel enough none large

/-- Invalid settings are refused, unless the first invalid one is too large for that. -/
theorem isRefusal_of_validate_config {error : ConfigError}
    (failed : settings.config.validate = .error error) :
    error.isRefusal = false ↔ settings.Overflows := by
  rw [Config.validate_eq] at failed
  -- The threshold is looked at first, then the log level, which is never too large for anything.
  cases read : Threshold.ofNumber settings.threshold with
  | error thresholdError =>
      simp only [config, Threshold.ofJson, read, Except.error.injEq] at failed
      rw [overflows_iff_of_ofNumber_eq_error read, ← failed, ConfigError.isRefusal_threshold]
  | ok threshold =>
      rw [overflows_iff_of_ofNumber_eq_ok read]
      simp only [config, Threshold.ofJson, read, isLogLevel, Number.ltInt, Number.leInt,
        decide_eq_true_eq] at failed
      split_ifs at failed with unknown few none
      · rw [← Except.error.inj failed]
        have notMem : settings.logLevel ∉ logLevels := by simpa using unknown
        simp [notMem, ConfigError.isRefusal]
      · rw [← Except.error.inj failed]
        have mem : settings.logLevel ∈ logLevels := by simpa using unknown
        refine (ConfigError.isRefusal_telling fun _ => rfl).trans ?_
        simp [mem, few, not_le.mpr few]
      · rw [← Except.error.inj failed]
        have mem : settings.logLevel ∈ logLevels := by simpa using unknown
        refine (ConfigError.isRefusal_telling fun _ => rfl).trans ?_
        simp [mem, few, not_lt.mp few, none]

/-- Settings of which one is too large to be refused are not valid. -/
theorem Overflows.not_isValid (overflows : settings.Overflows) :
    ¬settings.IsValid := by
  intro valid
  cases overflows with
  | threshold value given large =>
      obtain ⟨threshold, read⟩ := Threshold.exists_ofNumber_eq_ok_iff.mpr valid.threshold
      cases read.symm.trans (Threshold.ofNumber_eq_tooLarge_iff.mpr ⟨value, given, large⟩)
  | maxWorkers _ _ few => exact absurd valid.maxWorkers (not_le.mpr few)
  | maxFileSize _ _ _ none => exact absurd valid.maxFileSize (not_lt.mpr none)

end Settings

/-! ### Clients -/

namespace Client

theorem new_eq_ok_iff {config : Config} {client : Client} :
    new config = .ok client ↔
      client.config = config ∧ config.validate = .ok client.threshold := by
  obtain ⟨held, threshold⟩ := client
  cases valid : config.validate with
  | error error => simp [new, valid, bind, Except.bind]
  | ok validated =>
      simp only [new, valid, bind, Except.bind, pure, Except.pure, Except.ok.injEq, mk.injEq]
      exact and_congr_left fun _ => eq_comm

/-- The client with the default settings. -/
def default : Client :=
  { config := {}, threshold := ⟨3 / 4, by decide +kernel, by decide +kernel⟩ }

theorem new_default : new {} = .ok default :=
  new_eq_ok_iff.mpr ⟨rfl, Config.validate_float default.threshold⟩

theorem new_eq_error_iff {config : Config} {error : ConfigError} :
    new config = .error error ↔ config.validate = .error error := by
  cases valid : config.validate <;> simp [new, valid, bind, Except.bind, pure, Except.pure]

end Client

/-- The ways in which a client comes by its settings: it is given them, or it takes those of the
environment, with some of them replaced. -/
inductive ClientSource where
  | given (settings : Settings)
  | taken (environment : Environment) (overrides : List Setting)

namespace ClientSource

/-- The client that is built. -/
def client : ClientSource → Except ConfigError Client
  | given settings => Client.new settings.config
  | taken environment overrides =>
      Client.ofEnvironment environment (overrides.map Setting.named)

/-- The settings that the client is to have. -/
def settings : ClientSource → Settings
  | given settings => settings
  | taken environment overrides =>
      overrides.foldl Settings.set (.ofEnvironment environment)

/-- Whether the environment can be read, if the client takes anything from it. -/
def IsReadable : ClientSource → Prop
  | given _ => True
  | taken environment _ => environment.IsReadable

variable {source : ClientSource}

theorem client_of_isReadable (readable : source.IsReadable) :
    source.client = Client.new source.settings.config := by
  cases source with
  | given settings => rfl
  | taken environment overrides =>
      simp only [client, Client.ofEnvironment, Config.ofEnvironment_of_isReadable readable,
        Config.setAll_map_named, bind, Except.bind, settings]

theorem exists_client_eq_error (unreadable : ¬source.IsReadable) :
    ∃ error, source.client = .error error ∧ error.isRefusal = true := by
  cases source with
  | given settings => exact absurd trivial unreadable
  | taken environment overrides =>
      obtain ⟨name, raw, failed | failed⟩ := Config.exists_ofEnvironment_eq_error unreadable
      · refine ⟨.notANumber name raw, ?_, rfl⟩
        simp only [client, Client.ofEnvironment, failed, bind, Except.bind]
      · refine ⟨.notAnInteger name raw, ?_, rfl⟩
        simp only [client, Client.ofEnvironment, failed, bind, Except.bind]

theorem client_eq_ok_iff {client : Client} :
    source.client = .ok client ↔
      source.IsReadable ∧ source.settings.IsValid ∧ client.config = source.settings.config ∧
        source.settings.threshold.toRat? = some client.threshold.value := by
  by_cases readable : source.IsReadable
  · rw [client_of_isReadable readable, Client.new_eq_ok_iff, and_iff_right readable]
    constructor
    · rintro ⟨configEq, valid⟩
      obtain ⟨isValid, exact⟩ := Settings.validate_config_eq_ok_iff.mp valid
      exact ⟨isValid, configEq, exact⟩
    · rintro ⟨isValid, configEq, exact⟩
      exact ⟨configEq, Settings.validate_config_eq_ok_iff.mpr ⟨isValid, exact⟩⟩
  · obtain ⟨error, failed, -⟩ := exists_client_eq_error readable
    simp [failed, readable]

theorem exists_client_eq_ok_iff :
    (∃ client, source.client = .ok client) ↔ source.IsReadable ∧ source.settings.IsValid := by
  constructor
  · rintro ⟨client, built⟩
    obtain ⟨readable, isValid, -⟩ := client_eq_ok_iff.mp built
    exact ⟨readable, isValid⟩
  · rintro ⟨readable, isValid⟩
    obtain ⟨value, exact, positive, le_one⟩ := isValid.threshold
    exact ⟨{ config := source.settings.config, threshold := ⟨value, positive, le_one⟩ },
      client_eq_ok_iff.mpr ⟨readable, isValid, rfl, exact⟩⟩

theorem fails_iff :
    (∃ error, source.client = .error error ∧ error.isRefusal = false) ↔
      source.IsReadable ∧ source.settings.Overflows := by
  by_cases readable : source.IsReadable
  · rw [client_of_isReadable readable, and_iff_right readable]
    constructor
    · rintro ⟨error, failed, notRefusal⟩
      have invalid := Client.new_eq_error_iff.mp failed
      exact (Settings.isRefusal_of_validate_config invalid).mp notRefusal
    · intro overflows
      cases built : Client.new source.settings.config with
      | ok client =>
          have valid := (Client.new_eq_ok_iff.mp built).2
          exact absurd (Settings.validate_config_eq_ok_iff.mp valid).1 overflows.not_isValid
      | error error =>
          have invalid := Client.new_eq_error_iff.mp built
          exact ⟨error, rfl, (Settings.isRefusal_of_validate_config invalid).mpr overflows⟩
  · obtain ⟨error, failed, isRefusal⟩ := exists_client_eq_error readable
    simp [failed, readable, isRefusal]

end ClientSource

/-- A client is built just if its settings can be read and are valid, and nothing about them is
changed then.  All other settings are refused, except for integers that are too large for the
refusal. -/
theorem client_valid_or_refused (source : ClientSource) :
    ((∃ client, source.client = .ok client) ↔ source.IsReadable ∧ source.settings.IsValid) ∧
      (∀ client, source.client = .ok client →
        client.config = source.settings.config ∧
          source.settings.threshold.toRat? = some client.threshold.value) ∧
      ((∃ error, source.client = .error error ∧ error.isRefusal = false) ↔
        source.IsReadable ∧ source.settings.Overflows) := by
  refine ⟨ClientSource.exists_client_eq_ok_iff, ?_, ClientSource.fails_iff⟩
  intro client built
  obtain ⟨-, -, configEq, exact⟩ := ClientSource.client_eq_ok_iff.mp built
  exact ⟨configEq, exact⟩

/-- The default settings with an integer as threshold. -/
def integerSource (value : Int) : ClientSource :=
  .given { Settings.ofEnvironment [] with threshold := .int value }

theorem isValid_integerSource_one : (integerSource 1).settings.IsValid where
  threshold := ⟨1, congrArg some Int.cast_one, one_pos, le_rfl⟩
  logLevel := by decide
  maxWorkers := by decide
  maxFileSize := by decide

/-- One is a threshold. -/
theorem client_valid_or_refused_of_one :
    ∃ client, (integerSource 1).client = .ok client ∧
      client.config = (integerSource 1).settings.config ∧
      (integerSource 1).settings.threshold.toRat? = some client.threshold.value := by
  obtain ⟨builds, unchanged, -⟩ := client_valid_or_refused (integerSource 1)
  obtain ⟨client, built⟩ := builds.mpr ⟨trivial, isValid_integerSource_one⟩
  exact ⟨client, built, unchanged client built⟩

/-- A threshold past all floating-point numbers is not refused. -/
theorem huge_threshold_not_refused :
    ∃ error, (integerSource (10 ^ 400)).client = .error error ∧ error.isRefusal = false := by
  have overflows : (integerSource (10 ^ 400)).settings.Overflows :=
    .threshold (10 ^ 400) rfl (by decide +kernel)
  exact ClientSource.fails_iff.mpr ⟨trivial, overflows⟩

end Lookalike
