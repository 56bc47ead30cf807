import Lookalike.CommandLine
import Lookalike.Proofs.Config.Clients
import Lookalike.Proofs.Number.Numeral

/-!
# The settings of a session

A session on the command line has the settings of a client that the environment gives, with a
threshold in place of the environment's if one is given.  The threshold variable is read twice:
as the value of an option and as a setting.  Both readings agree, except on white space: a
variable that is blank but not empty is no number as an option's value, but counts as unset as a
setting.
-/

namespace Lookalike

/-- Whether the threshold variable holds nothing but white space, and some of it. -/
def Environment.HasBlankThreshold (environment : Environment) : Prop :=
  ∃ raw, environment.get? "NAMESAKE_SIMILARITY_THRESHOLD" = some raw ∧ raw ≠ "" ∧
    (strip raw).isEmpty = true

theorem Environment.not_hasBlankThreshold_nil : ¬HasBlankThreshold [] := by
  rintro ⟨raw, value, -⟩
  cases value

/-! ### Clients of the environment -/

theorem Config.isReadable_of_ofEnvironment {environment : Environment} {config : Config}
    (read : ofEnvironment environment = .ok config) : environment.IsReadable := by
  by_contra unreadable
  obtain ⟨name, raw, failed | failed⟩ := exists_ofEnvironment_eq_error unreadable <;>
    simp [failed] at read

/-- A client without overrides has the settings of the environment. -/
theorem Client.ofEnvironment_nil_eq_ok_iff {environment : Environment} {client : Client} :
    ofEnvironment environment [] = .ok client ↔
      Config.ofEnvironment environment = .ok client.config ∧
        client.config.validate = .ok client.threshold := by
  cases read : Config.ofEnvironment environment with
  | error error => simp [ofEnvironment, read, bind, Except.bind]
  | ok config =>
      have sameEq : ofEnvironment environment [] = new config := by
        simp [ofEnvironment, read, Config.setAll, bind, Except.bind, pure, Except.pure]
      rw [sameEq, new_eq_ok_iff]
      constructor
      · rintro ⟨rfl, valid⟩
        exact ⟨rfl, valid⟩
      · rintro ⟨⟨⟩, valid⟩
        exact ⟨rfl, valid⟩

theorem Client.ofEnvironment_unset : ofEnvironment [] [] = .ok .default :=
  ofEnvironment_nil_eq_ok_iff.mpr ⟨rfl, Config.validate_float default.threshold⟩

namespace CommandLine

variable {environment : Environment} {client : Client} {read : ReadWords}

/-! ### Thresholds of a session -/

/-- A valid configuration stays valid with another threshold. -/
theorem validate_withThreshold {config : Config} {threshold : Threshold}
    (valid : config.validate = .ok threshold) (other : Option Threshold) :
    (withThreshold config (other.map Threshold.number)).validate =
      .ok (other.getD threshold) := by
  cases other with
  | none => exact valid
  | some other =>
      obtain ⟨-, further⟩ := Config.validate_eq_ok_iff.mp valid
      have otherRead : Threshold.ofNumber (.float other.number) = .ok other :=
        Threshold.ofNumber_eq_ok_iff.mpr rfl
      exact Config.validate_eq_ok_iff.mpr ⟨otherRead, further⟩

/-- Without an option the threshold variable changes nothing about the settings that are read
from the environment, unless it is blank. -/
theorem sessionThreshold_of_none {config : Config}
    (configRead : Config.ofEnvironment environment = .ok config)
    (notBlank : ¬environment.HasBlankThreshold) (notGiven : read.value? .threshold = none) :
    ∃ threshold, sessionThreshold environment read = .ok threshold ∧
      withThreshold config threshold = config := by
  have readable := Config.isReadable_of_ofEnvironment configRead
  cases value : environment.get? "NAMESAKE_SIMILARITY_THRESHOLD" with
  | none => exact ⟨none, by simp [sessionThreshold, notGiven, value], rfl⟩
  | some raw =>
      by_cases empty : raw = ""
      · -- An empty variable is no option's value, and it counts as unset as a setting.
        subst empty
        exact ⟨none, by simp [sessionThreshold, notGiven, value, Option.filter], rfl⟩
      · have notStripped : (strip raw).isEmpty = false := by
          by_contra blank
          exact notBlank ⟨raw, value, empty, by simpa using blank⟩
        have said : environment.said? "NAMESAKE_SIMILARITY_THRESHOLD" = some raw := by
          simp [Environment.said?, value, notStripped, Option.filter]
        obtain ⟨number, numberRead⟩ := Option.isSome_iff_exists.mp (readable.threshold raw said)
        refine ⟨some number, ?_, ?_⟩
        · simp [sessionThreshold, notGiven, value, empty, readThreshold, numberRead, Option.filter,
            Except.map]
        · rw [Config.ofEnvironment_of_isReadable readable] at configRead
          rw [← Except.ok.inj configRead]
          simp [withThreshold, Settings.config, Settings.ofEnvironment, said, numberRead,
            Json.float]

/-- A blank threshold variable is refused as the value of an option. -/
theorem sessionThreshold_of_hasBlank (blank : environment.HasBlankThreshold)
    (notGiven : read.value? .threshold = none) :
    ∃ fault, sessionThreshold environment read = .error fault := by
  obtain ⟨raw, value, notEmpty, stripped⟩ := blank
  refine ⟨.noNumber thresholdForm.hint raw, ?_⟩
  simp [sessionThreshold, notGiven, value, notEmpty, readThreshold, readFloat?_of_blank stripped,
    Option.filter, Except.map]

theorem sessionConfig_eq {config : Config} {threshold : Option Binary64}
    (configRead : Config.ofEnvironment environment = .ok config) :
    sessionConfig environment threshold =
      (withThreshold config threshold).validate.map fun _ => withThreshold config threshold := by
  cases valid : (withThreshold config threshold).validate <;>
    simp [sessionConfig, configRead, valid, Except.map, bind, Except.bind, pure, Except.pure]

/-- The threshold of a session is that of the option or else that of the environment. -/
theorem session_eq {group : Option Threshold}
    (built : Client.ofEnvironment environment [] = .ok client)
    (notBlank : ¬environment.HasBlankThreshold)
    (given : (read.value? .threshold).map readFloat? = group.map fun threshold =>
      some threshold.number) :
    ∃ threshold, sessionThreshold environment read = .ok threshold ∧
      sessionConfig environment threshold =
        .ok (withThreshold client.config (group.map Threshold.number)) := by
  obtain ⟨configRead, valid⟩ := Client.ofEnvironment_nil_eq_ok_iff.mp built
  have sessionEq (threshold : Option Binary64)
      (same : withThreshold client.config threshold =
        withThreshold client.config (group.map Threshold.number)) :
      sessionConfig environment threshold =
        .ok (withThreshold client.config (group.map Threshold.number)) := by
    rw [sessionConfig_eq configRead, same, validate_withThreshold valid group]
    rfl
  cases value : read.value? .threshold with
  | none =>
      have noGroup : group = none := by simpa [value] using given.symm
      subst noGroup
      obtain ⟨threshold, thresholdEq, same⟩ :=
        sessionThreshold_of_none configRead notBlank value
      exact ⟨threshold, thresholdEq, sessionEq threshold same⟩
  | some text =>
      cases group with
      | none => simp [value] at given
      | some threshold =>
          have numberRead : readFloat? text = some threshold.number := by simpa [value] using given
          refine ⟨some threshold.number, ?_, sessionEq _ rfl⟩
          simp [sessionThreshold, value, readThreshold, numberRead, Except.map]

end CommandLine

end Lookalike
