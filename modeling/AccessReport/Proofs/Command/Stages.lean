import AccessReport.Command.Run
import AccessReport.Proofs.Outcomes
/-!
# Stages of commands

A command loads its configuration, compiles it, and goes on with other things that may fail as
well. What it fails with tells whether it got past its configuration.

* `GetsPast.bind_iff`: what one stage after the other fails with.
* `Command.getsPast_run`: what it means for a command to get past its configuration.
* `Command.getsPast_of_usable`, `Command.usable_of_getsPast`: whether it does is a matter of the
  configuration alone, if the command comes to compile it at all.
-/
namespace AccessReport

variable {around : Surroundings}

/-- The effective configuration can be loaded and compiled. -/
def ConfigSource.Usable (source : ConfigSource) (around : Surroundings) : Prop :=
  ∃ config registries, (source.load.run around).outcome = .ok config ∧
    Registries.compile config = .ok registries

/-! ## Errors of the configuration -/

/-- The errors of the stages in which a command loads and compiles its configuration. -/
inductive CommandError.OfConfiguration : CommandError → Prop where
  | loading (cause : ConfigError) : OfConfiguration (.config cause)
  | compiling (cause : RegistryError) : OfConfiguration (.report (.configuration cause))

/-- The configuration is loaded and compiled, if it comes to that; what fails is something else. -/
def GetsPast {α : Type} (outcome : Except CommandError α) : Prop :=
  ∀ error, outcome = .error error → ¬ error.OfConfiguration

namespace GetsPast

variable {α β : Type}

theorem of_ok (value : α) : GetsPast (.ok value) := by
  intro error h
  cases h

theorem error_iff {error : CommandError} :
    GetsPast (.error error : Except CommandError α) ↔ ¬ error.OfConfiguration := by
  constructor
  · intro h
    exact h error rfl
  · intro h other hother
    cases hother
    exact h

theorem bind_iff {first : Except CommandError α} {next : α → Except CommandError β} :
    GetsPast (first >>= next) ↔
      GetsPast first ∧ ∀ value, first = .ok value → GetsPast (next value) := by
  cases first with
  | error cause =>
    constructor
    · intro h
      refine ⟨error_iff.mpr (error_iff.mp h), fun value hvalue => ?_⟩
      cases hvalue
    · rintro ⟨h, -⟩
      exact error_iff.mpr (error_iff.mp h)
  | ok value =>
    constructor
    · intro h
      refine ⟨of_ok value, fun other hother => ?_⟩
      cases hother
      exact h
    · rintro ⟨-, h⟩
      exact h value rfl

/-- A stage whose errors are all about the configuration has to go well. -/
theorem stage_iff {ε : Type} {stage : Except ε α} {cause : ε → CommandError}
    {next : α → Except CommandError β} (hcause : ∀ error, (cause error).OfConfiguration) :
    GetsPast (stage.mapError cause >>= next) ↔
      ∃ value, stage = .ok value ∧ GetsPast (next value) := by
  rw [bind_iff]
  cases stage with
  | error error =>
    constructor
    · rintro ⟨h, -⟩
      exact absurd (hcause error) (error_iff.mp h)
    · rintro ⟨value, h, -⟩
      cases h
  | ok value =>
    constructor
    · rintro ⟨-, h⟩
      exact ⟨value, rfl, h value rfl⟩
    · rintro ⟨other, hother, h⟩
      cases hother
      refine ⟨of_ok value, fun same hsame => ?_⟩
      cases hsame
      exact h

end GetsPast

namespace Command

variable {source : ConfigSource} {options : ScanOptions} {uids : UidSupply} {β : Type}

/-! ## Stages of a command -/

theorem getsPast_config {next : Config → Except CommandError β} :
    GetsPast (((config source).run around).outcome >>= next) ↔
      ∃ config, (source.load.run around).outcome = .ok config ∧ GetsPast (next config) := by
  rw [config, Inquiry.outcome_mapError]
  exact GetsPast.stage_iff .loading

theorem getsPast_registries {config : Config} {next : Registries → Except CommandError β} :
    GetsPast (((registries config).run around).outcome >>= next) ↔
      ∃ registries, Registries.compile config = .ok registries ∧ GetsPast (next registries) := by
  have houtcome : ((registries config).run around).outcome
      = (Registries.compile config).mapError (.report ∘ .configuration) := by
    rw [registries, Inquiry.run_ofExcept, Traced.outcome_ofExcept, Report.registries]
    cases Registries.compile config <;> rfl
  rw [houtcome]
  exact GetsPast.stage_iff .compiling

theorem getsPast_input (path : String) : GetsPast ((input path).run around).outcome := by
  unfold input
  split
  · rw [Inquiry.run_bind, Traced.outcome_bind, Inquiry.run_input, Traced.outcome_pure, ok_bind]
    cases around.input with
    | ok text => exact GetsPast.of_ok text
    | error cause => exact GetsPast.error_iff.mpr fun h => by cases h
  · rw [Inquiry.run_bind, Traced.outcome_bind, Inquiry.run_read, Traced.outcome_pure, ok_bind]
    cases around.read path with
    | ok text => exact GetsPast.of_ok text
    | error cause => exact GetsPast.error_iff.mpr fun h => by cases h

theorem getsPast_selection (path : String) : GetsPast ((selection path).run around).outcome := by
  unfold selection
  rw [Inquiry.run_bind, Traced.outcome_bind, Inquiry.run_read, Traced.outcome_pure, ok_bind]
  cases around.read path with
  | error cause => exact GetsPast.error_iff.mpr fun h => by cases h
  | ok text =>
    dsimp only
    cases (Json.read? text).bind Selection.ofDocument? with
    | some held => exact GetsPast.of_ok held
    | none => exact GetsPast.error_iff.mpr fun h => by cases h

/-- The selection of a command that may be made without one. -/
def selectionIn (selected : Option String) : Inquiry CommandError (Option Selection) :=
  match selected with
  | some path => do pure (some (← selection path))
  | none => pure none

theorem getsPast_selectionIn (selected : Option String) :
    GetsPast ((selectionIn selected).run around).outcome := by
  cases selected with
  | none => exact GetsPast.of_ok none
  | some path =>
    rw [selectionIn, Inquiry.run_bind, Traced.outcome_bind, GetsPast.bind_iff]
    exact ⟨getsPast_selection path, fun held _ => GetsPast.of_ok (some held)⟩

theorem selectionIn_succeeds_iff {selected : Option String} :
    (∃ held, ((selectionIn selected).run around).outcome = .ok held) ↔
      ∀ path ∈ selected, ∃ held, ((selection path).run around).outcome = .ok held := by
  cases selected with
  | none =>
    constructor
    · intro _ path h
      cases h
    · intro _
      exact ⟨none, rfl⟩
  | some path =>
    rw [selectionIn, Inquiry.run_bind, Traced.outcome_bind]
    simp only [bind_eq_ok, Option.mem_some_iff, forall_eq']
    constructor
    · rintro ⟨_, held, h, -⟩
      exact ⟨held, h⟩
    · rintro ⟨held, h⟩
      exact ⟨some held, held, h, rfl⟩

theorem getsPast_engineScan (text : String) :
    GetsPast ((Report.engineScan text).mapError .report) := by
  rw [Report.engineScan]
  cases EngineScan.ofText? text with
  | some engine => exact GetsPast.of_ok engine
  | none => exact GetsPast.error_iff.mpr fun h => by cases h

/-! ## What a command needs besides -/

/-- The text at a path, or on the standard input, is an engine result. -/
def ReadsScan (around : Surroundings) (path : String) : Prop :=
  ∃ text engine, ((input path).run around).outcome = .ok text ∧
    EngineScan.ofText? text = some engine

/-- What a command has read before it compiles its configuration. Exports and cards are made only
of an engine result that could be read, and cards with the selection that was named. -/
def Prepared (around : Surroundings) : Command → Prop
  | unify options _ => ReadsScan around options.input
  | cards options _ selected => ReadsScan around options.input ∧
    ∀ path ∈ selected, ∃ held, ((selection path).run around).outcome = .ok held
  | _ => True

/-- Whether a command compiles the configuration. The others only show it or check it. -/
def compiles : Command → Bool
  | decorate _ | unify _ _ | cards _ _ _ | explain _ => true
  | rules _ | validate _ _ => false

/-! ## Commands -/

/-- A command that loads and compiles its configuration first, and then fails with something else
if at all. -/
theorem getsPast_compiling {rest : Config → Registries → Inquiry CommandError β}
    (hrest : ∀ config registries, GetsPast ((rest config registries).run around).outcome) :
    GetsPast ((do
      let config ← config source
      let registries ← registries config
      rest config registries).run around).outcome ↔ source.Usable around := by
  rw [Inquiry.run_bind, Traced.outcome_bind, getsPast_config]
  refine exists_congr fun config => ?_
  rw [exists_and_left, Inquiry.run_bind, Traced.outcome_bind, getsPast_registries]
  exact and_congr_right fun _ => exists_congr fun registries => and_iff_left (hrest _ _)

theorem getsPast_decorated :
    GetsPast ((decorated source options).run around).outcome ↔ source.Usable around := by
  refine getsPast_compiling fun config registries => ?_
  rw [Inquiry.run_bind, Traced.outcome_bind, GetsPast.bind_iff]
  refine ⟨getsPast_input options.input, fun text _ => ?_⟩
  rw [Inquiry.run_bind, Traced.outcome_bind, Inquiry.run_ofExcept, GetsPast.bind_iff]
  refine ⟨getsPast_engineScan text, fun engine _ => ?_⟩
  rw [Inquiry.run_bind, Traced.outcome_bind, Inquiry.outcome_tellAll, ok_bind]
  exact GetsPast.of_ok _

theorem getsPast_explanation {ruleId : String} :
    GetsPast ((explanation source ruleId).run around).outcome ↔ source.Usable around := by
  refine getsPast_compiling fun config registries => ?_
  cases config.explanation? registries ruleId with
  | some text => exact GetsPast.of_ok _
  | none => exact GetsPast.error_iff.mpr fun h => by cases h

theorem getsPast_run_report {plan : ReportPlan} {config : Config} {text : String} :
    GetsPast ((Report.run plan config text uids).mapError .report).outcome ↔
      ∀ engine, EngineScan.ofText? text = some engine →
        ∃ registries, Registries.compile config = .ok registries := by
  rw [Traced.outcome_mapError, Report.run, Traced.outcome_bind, Traced.outcome_ofExcept,
    Report.engineScan]
  cases EngineScan.ofText? text with
  | none =>
    constructor
    · intro _ engine h
      cases h
    · intro _
      exact GetsPast.error_iff.mpr fun h => by cases h
  | some engine =>
    rw [ok_bind, Traced.outcome_bind, Traced.outcome_ofExcept, Report.registries]
    cases Registries.compile config with
    | error cause =>
      constructor
      · intro h
        exact absurd (.compiling cause) (GetsPast.error_iff.mp h)
      · intro h
        obtain ⟨registries, hr⟩ := h engine rfl
        cases hr
    | ok registries => exact ⟨fun _ _ _ => ⟨registries, rfl⟩, fun _ => GetsPast.of_ok _⟩

theorem outcome_report (source : ConfigSource) (options : ScanOptions) (needsReview : Bool)
    (selected : Option String) (uids : UidSupply) :
    ((report source options needsReview selected uids).run around).outcome = (do
      let config ← ((config source).run around).outcome
      let selection ← ((selectionIn selected).run around).outcome
      let text ← ((input options.input).run around).outcome
      let plan : ReportPlan :=
        { title := config.titleFor options.title, mode := config.modeFor needsReview, selection }
      ((Report.run plan config text uids).mapError .report).outcome) := by
  unfold report
  rw [Inquiry.run_bind, Traced.outcome_bind]
  congr 1
  funext config
  cases selected with
  | none =>
    simp only [Inquiry.run_bind, Traced.outcome_bind, Inquiry.run_ofTraced]
    rfl
  | some path =>
    simp only [selectionIn, Inquiry.run_bind, Traced.outcome_bind, Inquiry.run_ofTraced]
    cases ((selection path).run around).outcome <;> rfl

theorem getsPast_report {needsReview : Bool} {selected : Option String} :
    GetsPast ((report source options needsReview selected uids).run around).outcome ↔
      ∃ config, (source.load.run around).outcome = .ok config ∧
        (Prepared around (.cards options needsReview selected) →
          ∃ registries, Registries.compile config = .ok registries) := by
  rw [outcome_report, getsPast_config]
  refine exists_congr fun config => and_congr_right fun _ => ?_
  simp only [GetsPast.bind_iff, getsPast_selectionIn, getsPast_input, true_and,
    getsPast_run_report]
  -- Here the configuration is compiled last, after the selection and the input were read.
  rw [Prepared, ← selectionIn_succeeds_iff]
  constructor
  · rintro h ⟨⟨text, engine, htext, hengine⟩, held, hheld⟩
    exact h held hheld text htext engine hengine
  · intro h held hheld text htext engine hengine
    exact h ⟨⟨text, engine, htext, hengine⟩, held, hheld⟩

/-- What comes after the last stage cannot fail. -/
theorem getsPast_ending {α γ : Type} {first : Inquiry CommandError α} {ending : α → γ} :
    GetsPast ((first >>= fun value => pure (ending value)).run around).outcome ↔
      GetsPast (first.run around).outcome := by
  rw [Inquiry.run_bind, Traced.outcome_bind, GetsPast.bind_iff]
  exact and_iff_left fun value _ => GetsPast.of_ok (ending value)

/-- What it means for a command to get past its configuration. -/
theorem getsPast_run {command : Command} (h : command.compiles = true) :
    GetsPast ((command.run source uids).run around).outcome ↔
      ∃ config, (source.load.run around).outcome = .ok config ∧
        (command.Prepared around → ∃ registries, Registries.compile config = .ok registries) := by
  cases command with
  | decorate options =>
    rw [run, getsPast_ending, getsPast_decorated]
    simp only [Prepared, forall_const, ConfigSource.Usable, exists_and_left]
  | explain ruleId =>
    rw [run, getsPast_ending, getsPast_explanation]
    simp only [Prepared, forall_const, ConfigSource.Usable, exists_and_left]
  | unify options needsReview =>
    rw [run, getsPast_ending, getsPast_report]
    simp only [Prepared, Option.mem_def, reduceCtorEq, false_implies, implies_true, and_true]
  | cards options needsReview selected =>
    rw [run, getsPast_ending, getsPast_report]
  | rules format => cases h
  | validate strict format => cases h

theorem prepared_of_report {needsReview : Bool} {selected : Option String} {made : Report}
    (h : ((report source options needsReview selected uids).run around).outcome = .ok made) :
    Prepared around (.cards options needsReview selected) := by
  rw [outcome_report] at h
  obtain ⟨config, -, h⟩ := bind_eq_ok.mp h
  obtain ⟨held, hheld, h⟩ := bind_eq_ok.mp h
  obtain ⟨text, htext, h⟩ := bind_eq_ok.mp h
  rw [Traced.outcome_mapError, mapError_eq_ok] at h
  obtain ⟨engine, -, hengine, -⟩ := (Report.run_outcome _ _ _ _ _).mp h
  exact ⟨⟨text, engine, htext, hengine⟩, selectionIn_succeeds_iff.mp ⟨held, hheld⟩⟩

/-- A command that has gone well has read what it needs. -/
theorem prepared_of_ok {command : Command} {result : Nat × Output}
    (h : ((command.run source uids).run around).outcome = .ok result) :
    command.Prepared around := by
  cases command with
  | unify options needsReview =>
    rw [run, Inquiry.run_bind, Traced.outcome_bind] at h
    obtain ⟨made, hmade, -⟩ := bind_eq_ok.mp h
    exact (prepared_of_report hmade).1
  | cards options needsReview selected =>
    rw [run, Inquiry.run_bind, Traced.outcome_bind] at h
    obtain ⟨made, hmade, -⟩ := bind_eq_ok.mp h
    exact prepared_of_report hmade
  | decorate options => trivial
  | explain ruleId => trivial
  | rules format => trivial
  | validate strict format => trivial

/-- A configuration that can be used stops no command. -/
theorem getsPast_of_usable {command : Command} (h : command.compiles = true)
    (husable : source.Usable around) : GetsPast ((command.run source uids).run around).outcome := by
  obtain ⟨config, registries, hload, hc⟩ := husable
  exact (getsPast_run h).mpr ⟨config, hload, fun _ => ⟨registries, hc⟩⟩

/-- A configuration that cannot be used stops every command that comes to compile it. -/
theorem usable_of_getsPast {command : Command} (h : command.compiles = true)
    (hprepared : command.Prepared around)
    (hpast : GetsPast ((command.run source uids).run around).outcome) : source.Usable around := by
  obtain ⟨config, hload, hc⟩ := (getsPast_run h).mp hpast
  obtain ⟨registries, hc⟩ := hc hprepared
  exact ⟨config, registries, hload, hc⟩

end Command
end AccessReport
