import AccessReport.Proofs.Config.Includes
import AccessReport.Proofs.Config.Problems
/-!
# Effective configurations

The configuration that commands work with, over all ways in which it comes about: without a file,
from a file alone, with what it includes, over the built-in one or without that.

* `Loading.load_keeps`: what the first file defines is loaded as it stands there.
* `ConfigSource.load_ok_iff`: what has to go well for a configuration to be loaded.
* `ConfigSource.distinct_of_load`: each id is defined once in whatever is loaded.
* `ConfigSource.load_compiles_apart`: what that means for compiling it.
-/
namespace AccessReport

variable {around : Surroundings}

/-! ## The first file -/

namespace Loading

theorem distinct_of_load {path : String} {config : Config}
    (h : ((load path).run around).outcome = .ok config) : config.Distinct := by
  obtain ⟨-, files, -, hall⟩ := load_combines h
  exact hall.distinct

/-- The first file wins over all that it includes. -/
theorem load_keeps {path : String} {config : Config}
    (h : ((load path).run around).outcome = .ok config) :
    ∃ file, configAt? around path = some file ∧ file.Distinct ∧ file.rules ⊆ config.rules := by
  rw [load_eq] at h
  obtain ⟨location, file, -, -, hfile, hr, hl, h⟩ := loadBehind_ok_iff.mp h
  refine ⟨file, hfile, ⟨hr, hl⟩, ?_⟩
  obtain ⟨parts, -, rfl⟩ := withIncludes_ok_iff.mp h
  split
  · exact List.Subset.refl _
  · exact fun _ hm => Merge.mem_byId_upper _ hr hm

end Loading

/-! ## Sources -/

theorem BuiltIn.distinct_config : BuiltIn.config.Distinct := ⟨by decide, by decide⟩

namespace ConfigSource

/-- The file that a source stands for: the named one, else the default one if it is there. -/
def fileIn (source : ConfigSource) (around : Surroundings) : Option String :=
  match source.path with
  | some path => some path
  | none => if around.exists? defaultFile then some defaultFile else none

theorem outcome_file? (source : ConfigSource) (around : Surroundings) :
    (source.file?.run around).outcome = .ok (source.fileIn around) := by
  unfold file? fileIn
  cases source.path with
  | some path => rfl
  | none =>
    rw [Inquiry.run_bind, Traced.outcome_bind, Inquiry.run_exists, Traced.outcome_pure, ok_bind]
    rfl

/-- A configuration over the built-in one, unless that is left out. -/
def layered (noDefaults : Bool) (config : Config) : Config :=
  if noDefaults then config else BuiltIn.config.merge config

theorem distinct_layered {noDefaults : Bool} {config : Config} (h : config.Distinct) :
    (layered noDefaults config).Distinct := by
  unfold layered
  split
  · exact h
  · exact BuiltIn.distinct_config.merge config

theorem rules_subset_layered (noDefaults : Bool) {config : Config} (h : config.Distinct) :
    config.rules ⊆ (layered noDefaults config).rules := by
  unfold layered
  split
  · exact List.Subset.refl _
  · exact fun _ hm => Merge.mem_byId_upper _ h.rules hm

theorem loadFile_ok_iff {noDefaults : Bool} {path : String} {config : Config} :
    ((loadFile noDefaults path).run around).outcome = .ok config ↔
      ∃ loaded, ((Loading.load path).run around).outcome = .ok loaded ∧
        config = layered noDefaults loaded := by
  simp only [loadFile, Inquiry.run_bind, Traced.outcome_bind, Inquiry.run_tell,
    Traced.outcome_tell, ok_bind, bind_eq_ok, Inquiry.run_pure, Traced.outcome_pure,
    Except.ok.injEq]
  exact exists_congr fun _ => and_congr_right fun _ => eq_comm

/-- With a file that one is loaded, without one there is nothing that could go wrong. -/
theorem load_ok_iff {source : ConfigSource} {config : Config} :
    (source.load.run around).outcome = .ok config ↔
      (source.fileIn around = none ∧ config = BuiltIn.config) ∨
        ∃ path, source.fileIn around = some path ∧
          ((loadFile source.noDefaults path).run around).outcome = .ok config := by
  rw [load, Inquiry.run_bind, Traced.outcome_bind, outcome_file?, ok_bind]
  cases source.fileIn around with
  | none =>
    constructor
    · intro h
      cases h
      exact .inl ⟨rfl, rfl⟩
    · rintro (⟨-, rfl⟩ | ⟨path, h, -⟩)
      · rfl
      · cases h
  | some path =>
    constructor
    · intro h
      exact .inr ⟨path, rfl, h⟩
    · rintro (⟨h, -⟩ | ⟨other, h, hother⟩)
      · cases h
      · cases h
        exact hother

/-- To name the file that is used anyway makes no difference. -/
theorem outcome_load_named {source : ConfigSource} {path : String}
    (h : source.fileIn around = some path) :
    ((load { source with path := some path }).run around).outcome
      = (source.load.run around).outcome := by
  simp only [load, Inquiry.run_bind, Traced.outcome_bind, outcome_file?, ok_bind, h]
  rfl

/-- Whatever lies above or below it, the file that is used keeps its rules. -/
theorem load_keeps {source : ConfigSource} {path : String} {config : Config}
    (hfile : source.fileIn around = some path)
    (h : (source.load.run around).outcome = .ok config) :
    ∃ file, Loading.configAt? around path = some file ∧ file.Distinct ∧
      file.rules ⊆ config.rules := by
  rcases load_ok_iff.mp h with ⟨hnone, -⟩ | ⟨other, hother, h⟩
  · rw [hfile] at hnone
    cases hnone
  · rw [hfile] at hother
    cases hother
    obtain ⟨loaded, hloaded, rfl⟩ := loadFile_ok_iff.mp h
    obtain ⟨file, hat, hd, hsub⟩ := Loading.load_keeps hloaded
    have habove := rules_subset_layered source.noDefaults (Loading.distinct_of_load hloaded)
    exact ⟨file, hat, hd, List.Subset.trans hsub habove⟩

theorem distinct_of_load {source : ConfigSource} {config : Config}
    (h : (source.load.run around).outcome = .ok config) : config.Distinct := by
  rcases load_ok_iff.mp h with ⟨-, rfl⟩ | ⟨path, -, h⟩
  · exact BuiltIn.distinct_config
  · obtain ⟨loaded, hloaded, rfl⟩ := loadFile_ok_iff.mp h
    exact distinct_layered (Loading.distinct_of_load hloaded)

end ConfigSource

/-- **Effective configurations.** Whatever is loaded defines each id once. So a repeated id never
stops its compilation, and each of its rules is there in the compiled form. -/
theorem ConfigSource.load_compiles_apart (around : Surroundings) (source : ConfigSource)
    (config : Config) (h : (source.load.run around).outcome = .ok config) :
    ((config.rules.map (·.id)).Nodup ∧ (config.links.map (·.id)).Nodup) ∧
      (∀ ruleId, Registries.compile config ≠ .error (.duplicateRule ruleId)) ∧
      (∀ linkId, Registries.compile config ≠ .error (.duplicateLink linkId)) ∧
      ∀ registries, Registries.compile config = .ok registries →
        registries.rules.size = config.rules.length ∧
          ∀ rule ∈ config.rules, ∃ compiled,
            registries.rules.get? rule.id = some compiled ∧ rule.Compiles compiled := by
  have hd := distinct_of_load h
  refine ⟨⟨hd.rules, hd.links⟩, fun ruleId herror => ?_, fun linkId herror => ?_,
    fun registries hc => ⟨Registries.size_compile hc, fun _ => Registries.get?_of_mem hc⟩⟩
  · obtain ⟨problem, hnames, hinside⟩ := ConfigProblem.isInside_of_compile hd herror
    cases hnames
    exact hinside
  · obtain ⟨problem, hnames, hinside⟩ := ConfigProblem.isInside_of_compile hd herror
    cases hnames
    exact hinside

/-- A file over another one, with a rule that is built in as well. The rule refers to a link that
only the lower file defines. -/
def stacked : Surroundings where
  read path :=
    if path = "a11ylens.toml" then
      .ok "includes = [\"base.toml\"]\n[[rule]]\nid = \"list\"\nguidance = [\"OWN\"]"
    else .ok "[[rule]]\nid = \"list\"\n[[link]]\nid = \"OWN\"\ntext = \"\"\nhref = \"\""
  canonical path := .ok path
  value? _ := none
  input := .ok ""

theorem ConfigSource.load_compiles_stacked :
    ∃ config, ((load {}).run stacked).outcome = .ok config ∧
      (config.rules.map (·.id)).Nodup ∧ (config.links.map (·.id)).Nodup ∧
      Registries.compile config ≠ .error (.duplicateRule "list") ∧
      ∀ registries, Registries.compile config = .ok registries → registries.rules.size = 21 := by
  have hload : (((load {}).run stacked).outcome.toOption.map fun config =>
      config.rules.length) = some 21 := by
    decide +kernel
  obtain ⟨config, hconfig, hlength⟩ := Option.map_eq_some_iff.mp hload
  have hok := toOption_eq_some.mp hconfig
  obtain ⟨⟨hr, hl⟩, hrule, -, hall⟩ := load_compiles_apart stacked {} config hok
  exact ⟨config, hok, hr, hl, hrule "list",
    fun registries hc => (hall registries hc).1.trans hlength⟩

end AccessReport
