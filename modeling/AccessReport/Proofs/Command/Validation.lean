import AccessReport.Proofs.Command.Stages
import AccessReport.Proofs.Config.Effective
import AccessReport.Unified.Uid
/-!
# Validation and the other commands

Validating looks at one file in its own way before it consults what the other commands do about
their configuration. Both come to the same: the rules of the file are rules of the effective
configuration, so that what is wrong with them stops its compilation as well.

* `Validation.errors_eq_nil_iff`: no error is found if and only if the configuration loads and
  compiles.
* `CommandLine.exitCode_validate_eq_zero_iff`, `CommandLine.exitCode_validate_le_one`: the same for
  the exit code.
* `CommandLine.validate_speaks_for_all`: what it tells about the other commands.
-/
namespace AccessReport

variable {around : Surroundings}

/-- A file is sound if it defines each id once and its rules are those of a sound configuration. -/
theorem Config.Sound.of_subset {known : List String} {config file : Config}
    (h : config.Sound known) (hd : file.Distinct) (hsub : file.rules ⊆ config.rules) :
    file.Sound known :=
  ⟨hd, fun rule hm => h.each rule (hsub hm)⟩

/-! ## Finding errors -/

namespace Validation

theorem loadErrors_eq_nil_iff {effective : Except ConfigError Config} :
    loadErrors effective = [] ↔
      ∃ config registries, effective = .ok config ∧ Registries.compile config = .ok registries := by
  cases effective with
  | error cause => simp [loadErrors]
  | ok config =>
    cases hc : Registries.compile config <;> simp [loadErrors, hc]

/-- Where the rules of the file are rules of the effective configuration, looking at the file finds
nothing that would not stop the configuration from being loaded or compiled. -/
theorem errors_eq_nil_iff {noDefaults strict : Bool} {path : String} {file : Config}
    {effective : Except ConfigError Config}
    (hfile : ∀ config, effective = .ok config → file.Distinct ∧ file.rules ⊆ config.rules) :
    (of noDefaults strict path file effective).errors = [] ↔
      ∃ config registries, effective = .ok config ∧ Registries.compile config = .ok registries := by
  -- Only a file without problems of its own is compared with what is loaded. If there are some,
  -- they are in the effective configuration as well, where they stop the compilation.
  rw [← loadErrors_eq_nil_iff]
  by_cases hnone : ConfigProblem.ofConfig (knownLinks noDefaults file effective) file = []
  · rw [of, hnone]
    rfl
  · have hsome : (ConfigProblem.ofConfig (knownLinks noDefaults file effective) file).isEmpty
        = false := by simpa using hnone
    rw [of, hsome]
    constructor
    · intro h
      exact absurd (List.map_eq_nil_iff.mp h) hnone
    · intro h
      obtain ⟨config, registries, rfl, hc⟩ := loadErrors_eq_nil_iff.mp h
      obtain ⟨hd, hsub⟩ := hfile config rfl
      have hsound := Registries.compile_succeeds_iff.mp ⟨registries, hc⟩
      exact absurd (ConfigProblem.ofConfig_eq_nil_iff.mpr (hsound.of_subset hd hsub)) hnone

/-- What validating comes to: the file as it stands there, and what is loaded with it. -/
theorem outcome_run {source : ConfigSource} {path : String} (strict : Bool)
    (h : source.fileIn around = some path) :
    ((run source strict).run around).outcome =
      ((Loading.single path).run around).outcome.mapError .config >>= fun file =>
        .ok (of source.noDefaults strict path file (source.load.run around).outcome) := by
  unfold run
  rw [Inquiry.run_bind, Traced.outcome_bind, Inquiry.run_tell, Traced.outcome_tell, ok_bind,
    Inquiry.run_bind, Traced.outcome_bind, Inquiry.outcome_mapError, ConfigSource.outcome_file?, h,
    Traced.mapError_ok, ok_bind]
  simp only [Inquiry.run_bind, Traced.outcome_bind, Inquiry.run_tell, Traced.outcome_tell, ok_bind,
    Inquiry.outcome_mapError, Inquiry.run_attempt, ConfigSource.outcome_load_named h,
    Inquiry.outcome_tellAll, Inquiry.run_pure, Traced.outcome_pure]

/-- A file is found to be valid if and only if the configuration can be used. -/
theorem run_valid_iff {source : ConfigSource} {path : String} (strict : Bool)
    (h : source.fileIn around = some path) :
    (∃ found, ((run source strict).run around).outcome = .ok found ∧ found.errors = []) ↔
      source.Usable around := by
  rw [outcome_run strict h]
  cases hs : ((Loading.single path).run around).outcome with
  | error cause =>
    rw [Traced.mapError_error]
    constructor
    · rintro ⟨found, hfound, -⟩
      cases hfound
    · rintro ⟨config, registries, hload, -⟩
      obtain ⟨file, hat, -⟩ := ConfigSource.load_keeps h hload
      rw [Loading.single_ok_iff.mpr hat] at hs
      cases hs
  | ok file =>
    have hkeeps : ∀ config, (source.load.run around).outcome = .ok config →
        file.Distinct ∧ file.rules ⊆ config.rules := by
      intro config hload
      obtain ⟨kept, hat, hkept⟩ := ConfigSource.load_keeps h hload
      rw [Loading.single_ok_iff.mp hs] at hat
      cases hat
      exact hkept
    rw [Traced.mapError_ok, ok_bind]
    constructor
    · rintro ⟨found, hfound, herrors⟩
      cases hfound
      exact (errors_eq_nil_iff hkeeps).mp herrors
    · intro husable
      exact ⟨_, rfl, (errors_eq_nil_iff hkeeps).mpr husable⟩

end Validation

/-! ## The exit code -/

/-- The same options for another command. -/
def CommandLine.doing (line : CommandLine) (command : Command) : CommandLine :=
  { line with command }

/-- The exit code of a command line: that of its command, or one if the command fails. -/
def CommandLine.exitCode (line : CommandLine) (around : Surroundings) (uids : UidSupply) : Nat :=
  match ((line.run uids).run around).outcome with
  | .ok (code, _) => code
  | .error _ => 1

/-- A command line gets past its configuration. -/
def CommandLine.GetsPast (line : CommandLine) (around : Surroundings) (uids : UidSupply) : Prop :=
  AccessReport.GetsPast ((line.run uids).run around).outcome

theorem CommandLine.outcome_doing (line : CommandLine) (command : Command) (uids : UidSupply) :
    (((line.doing command).run uids).run around).outcome
      = ((command.run line.source uids).run around).outcome := by
  rw [run, Inquiry.run_bind, Traced.outcome_bind, Inquiry.run_tell, Traced.outcome_tell, ok_bind]
  rfl

/-- However it is shown, what was found decides about the exit code. -/
theorem Command.outcome_validation (around : Surroundings) (source : ConfigSource) (strict : Bool)
    (format : ValidateFormat) :
    ∃ shown : Validation → String, ((validation source strict format).run around).outcome =
      ((Validation.run source strict).run around).outcome >>= fun found =>
        .ok (found.exitCode, .print (shown found)) := by
  unfold validation
  rw [Inquiry.run_bind, Traced.outcome_bind]
  cases format with
  | text => exact ⟨Validation.text, rfl⟩
  | json => exact ⟨fun found => found.toJson.pretty ++ "\n", rfl⟩

namespace CommandLine

variable {line : CommandLine} (strict : Bool) (format : ValidateFormat) (uids : UidSupply)

theorem exitCode_validate_eq_zero_iff {path : String}
    (h : line.source.fileIn around = some path) :
    (line.doing (.validate strict format)).exitCode around uids = 0 ↔
      line.source.Usable around := by
  obtain ⟨shown, hshown⟩ := Command.outcome_validation around line.source strict format
  rw [← Validation.run_valid_iff strict h, exitCode, outcome_doing, Command.run, hshown]
  cases ((Validation.run line.source strict).run around).outcome with
  | error cause => simp [bind, Except.bind]
  | ok found => simp [ok_bind, Validation.exitCode_eq_zero]

theorem exitCode_validate_le_one (around : Surroundings) (line : CommandLine) :
    (line.doing (.validate strict format)).exitCode around uids ≤ 1 := by
  obtain ⟨shown, hshown⟩ := Command.outcome_validation around line.source strict format
  rw [exitCode, outcome_doing, Command.run, hshown]
  cases ((Validation.run line.source strict).run around).outcome with
  | error cause => exact Nat.le_refl 1
  | ok found =>
    show found.exitCode ≤ 1
    rw [Validation.exitCode]
    split <;> decide

theorem exitCode_ofLine_validate (tree : FileTree) (environment : List (String × String))
    (input : String) :
    (Completion.ofLine (line.doing (.validate strict format)) tree environment input
        uids).exitCode
      = (line.doing (.validate strict format)).exitCode (.ofTree tree environment input) uids := by
  obtain ⟨shown, hshown⟩ :=
    Command.outcome_validation (.ofTree tree environment input) line.source strict format
  have hrun := (outcome_doing line (.validate strict format) uids).trans hshown
  rw [Completion.ofLine, exitCode, hrun]
  cases ((Validation.run line.source strict).run (.ofTree tree environment input)).outcome <;> rfl

end CommandLine

/-- **Validation.** If there is a file, the exit code of validating it tells whether the effective
configuration can be loaded and compiled, strict or not and however the result is shown. If it can,
every command with the same options that compiles its configuration gets past it. If it cannot,
none does that comes to compile it, and none goes well. -/
theorem CommandLine.validate_speaks_for_all (around : Surroundings) (line : CommandLine)
    (uids : UidSupply) (h : (line.source.fileIn around).isSome = true) :
    (∀ strict format, (line.doing (.validate strict format)).exitCode around uids = 0 ↔
        line.source.Usable around) ∧
      (∀ strict format strict' format',
        (line.doing (.validate strict format)).exitCode around uids
          = (line.doing (.validate strict' format')).exitCode around uids) ∧
      (∀ command : Command, command.compiles = true →
        (line.source.Usable around → (line.doing command).GetsPast around uids) ∧
          (command.Prepared around → (line.doing command).GetsPast around uids →
            line.source.Usable around) ∧
          ∀ result, (((line.doing command).run uids).run around).outcome = .ok result →
            line.source.Usable around) ∧
      ∀ tree environment input, around = .ofTree tree environment input → ∀ strict format,
        (Completion.ofLine (line.doing (.validate strict format)) tree environment input
            uids).exitCode
          = (line.doing (.validate strict format)).exitCode around uids := by
  obtain ⟨path, hpath⟩ := Option.isSome_iff_exists.mp h
  refine ⟨?_, ?_, ?_, ?_⟩
  · intro strict format
    exact exitCode_validate_eq_zero_iff strict format uids hpath
  · intro strict format strict' format'
    have hzero := (exitCode_validate_eq_zero_iff strict format uids hpath).trans
      (exitCode_validate_eq_zero_iff strict' format' uids hpath).symm
    -- Both codes are zero or one, and zero in the same case.
    have hle := exitCode_validate_le_one strict format uids around line
    have hle' := exitCode_validate_le_one strict' format' uids around line
    omega
  · intro command hcompiles
    simp only [GetsPast, outcome_doing]
    refine ⟨Command.getsPast_of_usable hcompiles, Command.usable_of_getsPast hcompiles, ?_⟩
    intro result hok
    have hpast : AccessReport.GetsPast ((command.run line.source uids).run around).outcome := by
      rw [hok]
      exact .of_ok result
    exact Command.usable_of_getsPast hcompiles (Command.prepared_of_ok hok) hpast
  · rintro tree environment input rfl strict format
    exact exitCode_ofLine_validate strict format uids tree environment input

/-- A tree with a file that includes another one, which defines the link that the first one
needs. -/
def stackedTree : FileTree := .ofFiles ["home"] [
  ("a11ylens.toml", "includes = [\"base.toml\"]\n[[rule]]\nid = \"list\"\nguidance = [\"OWN\"]"),
  ("base.toml", "[[link]]\nid = \"OWN\"\ntext = \"\"\nhref = \"\"")]

theorem CommandLine.validate_speaks_for_tree :
    let line : CommandLine := { source := { noDefaults := true }, command := .explain "list" }
    let around := Surroundings.ofTree stackedTree [] ""
    let uids := Uid.supply 0 0
    (line.source.fileIn around).isSome = true ∧
      (line.doing (.validate true .json)).exitCode around uids = 0 ∧
      (Completion.ofLine (line.doing (.validate false .text)) stackedTree [] "" uids).exitCode
        = 0 ∧
      line.GetsPast around uids := by
  intro line around uids
  have hfile : (line.source.fileIn around).isSome = true := by decide +kernel
  have hcompile : ((line.source.load.run around).outcome.toOption.bind fun config =>
      (Registries.compile config).toOption.map (·.rules.size)) = some 1 := by
    decide +kernel
  obtain ⟨config, hload, hcompile⟩ := Option.bind_eq_some_iff.mp hcompile
  obtain ⟨registries, hcompile, -⟩ := Option.map_eq_some_iff.mp hcompile
  have husable : line.source.Usable around :=
    ⟨config, registries, toOption_eq_some.mp hload, toOption_eq_some.mp hcompile⟩
  obtain ⟨hzero, -, hothers, htree⟩ := validate_speaks_for_all around line uids hfile
  exact ⟨hfile, (hzero true .json).mpr husable,
    (htree stackedTree [] "" rfl false .text).trans ((hzero false .text).mpr husable),
    (hothers line.command rfl).1 husable⟩

end AccessReport
