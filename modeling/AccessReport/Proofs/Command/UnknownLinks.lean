import AccessReport.Proofs.Command.Validation
/-!
# Keys that are called unknown

Validating a file calls a key unknown if no link with this id can be found. Where links are looked
up depends on whether the effective configuration can be loaded: if so, in all files that the first
one leads to; if not, only in that file and in the built-in catalog. A key is reported exactly where
a rule of the file has it and that look-up finds nothing. A sound file may be followed by what stops
the compilation, and a key that this calls unknown is not found either.

* `Validation.errors_of`: the errors are the messages of what was found.
* `Validation.mem_knownLinks_iff`: the ids that are looked up are those that are defined.
* `Validation.accuses_undefined`: what is called unknown, and what is not.
* `Validation.accuses_included`: a link in a file beside one that is missing.
-/
namespace AccessReport

/-- What validating a file can find: a problem in it, or what stops the effective configuration. -/
inductive Finding where
  | problem (listed : ConfigProblem)
  | uncompiled (cause : RegistryError)
  | unloaded (cause : ConfigError)
deriving DecidableEq

namespace Finding

def message : Finding → String
  | problem listed => listed.message
  | uncompiled cause => "Configuration compile error: " ++ cause.message
  | unloaded cause => "Configuration load error: " ++ ": ".intercalate cause.chain

/-- A key of a rule is called unknown. -/
inductive Accuses (ruleId key : String) : Finding → Prop where
  | problem : Accuses ruleId key (.problem (.unknownLink ruleId key))
  | uncompiled : Accuses ruleId key (.uncompiled (.unknownLink ruleId key))

/-- What stops the effective configuration from being used. -/
def ofEffective : Except ConfigError Config → List Finding
  | .ok config => match Registries.compile config with
    | .ok _ => []
    | .error cause => [.uncompiled cause]
  | .error cause => [.unloaded cause]

end Finding

namespace Validation

/-- What is found in a file: its problems, or else what stops the effective configuration. -/
def findings (noDefaults : Bool) (file : Config) (effective : Except ConfigError Config) :
    List Finding :=
  match ConfigProblem.ofConfig (knownLinks noDefaults file effective) file with
  | [] => Finding.ofEffective effective
  | problems => problems.map .problem

theorem loadErrors_eq (effective : Except ConfigError Config) :
    loadErrors effective = (Finding.ofEffective effective).map (·.message) := by
  unfold loadErrors Finding.ofEffective
  cases effective with
  | error cause => rfl
  | ok config =>
    cases hc : Registries.compile config with
    | ok registries => simp only [hc, List.map_nil]
    | error cause =>
      simp only [hc, List.map_cons, List.map_nil]
      rfl

theorem errors_of (noDefaults strict : Bool) (path : String) (file : Config)
    (effective : Except ConfigError Config) :
    (of noDefaults strict path file effective).errors
      = (findings noDefaults file effective).map (·.message) := by
  rw [of, findings]
  cases ConfigProblem.ofConfig (knownLinks noDefaults file effective) file with
  | nil => exact loadErrors_eq effective
  | cons problem problems =>
    rw [List.map_map]
    rfl

/-! ## Where links are looked up -/

/-- A link with this id can be found: in the file, in the built-in catalog unless that is left out,
or, if the effective configuration can be loaded, in any file that the first one leads to. -/
inductive Defines (around : Surroundings) (source : ConfigSource) (path : String) (file : Config)
    (key : String) : Prop where
  | own (h : key ∈ file.links.map (·.id))
  | builtIn (h : source.noDefaults = false) (hk : key ∈ BuiltIn.config.links.map (·.id))
  | included {effective : Config} (h : (source.load.run around).outcome = .ok effective)
    {chain : List String} (hc : Loading.Chain around path chain) {member : String}
    (hm : member ∈ chain) {held : Config} (hh : Loading.configAt? around member = some held)
    (hk : key ∈ held.links.map (·.id))

variable {around : Surroundings} {source : ConfigSource} {path : String} {file : Config}

theorem mem_ids_layered {noDefaults : Bool} {config : Config} {key : String} :
    key ∈ (ConfigSource.layered noDefaults config).links.map (·.id) ↔
      (noDefaults = false ∧ key ∈ BuiltIn.config.links.map (·.id)) ∨
        key ∈ config.links.map (·.id) := by
  unfold ConfigSource.layered
  cases noDefaults with
  | true => simp
  | false =>
    have hids : (BuiltIn.config.merge config).links.map (·.id)
        = (BuiltIn.config.links.map (·.id) ++ config.links.map (·.id)).eraseDups :=
      Merge.ids_byId BuiltIn.distinct_config.links config.links
    rw [if_neg Bool.false_ne_true, hids, List.mem_eraseDups, List.mem_append]
    simp

/-- What is loaded has the links of all files that the first one leads to. -/
theorem mem_ids_load {loaded : Config} (h : ((Loading.load path).run around).outcome = .ok loaded)
    {key : String} :
    key ∈ loaded.links.map (·.id) ↔ ∃ chain, Loading.Chain around path chain ∧
      ∃ member ∈ chain, ∃ held, Loading.configAt? around member = some held ∧
        key ∈ held.links.map (·.id) := by
  obtain ⟨-, files, hwalk, hall⟩ := Loading.load_combines h
  have hmem : ∀ held, held ∈ files ↔ ∃ chain, Loading.Chain around path chain ∧
      ∃ member ∈ chain, Loading.configAt? around member = some held := by
    intro held
    rw [hwalk.mem_iff]
    simp
  rw [hall.links.ids, List.mem_eraseDups]
  constructor
  · intro hk
    obtain ⟨link, hl, rfl⟩ := List.mem_map.mp hk
    obtain ⟨links, hls, hl⟩ := List.mem_flatten.mp hl
    obtain ⟨held, hheld, rfl⟩ := List.mem_map.mp hls
    obtain ⟨chain, hc, member, hm, hat⟩ := (hmem held).mp hheld
    exact ⟨chain, hc, member, hm, held, hat, List.mem_map_of_mem hl⟩
  · rintro ⟨chain, hc, member, hm, held, hat, hk⟩
    obtain ⟨link, hl, rfl⟩ := List.mem_map.mp hk
    have hheld := (hmem held).mpr ⟨chain, hc, member, hm, hat⟩
    exact List.mem_map_of_mem (List.mem_flatten_of_mem (List.mem_map_of_mem hheld) hl)

/-- Without an effective configuration, only the file and the built-in catalog are left. -/
theorem mem_knownLinks_error {noDefaults : Bool} {cause : ConfigError} {key : String} :
    key ∈ knownLinks noDefaults file (.error cause) ↔
      (noDefaults = false ∧ key ∈ BuiltIn.config.links.map (·.id)) ∨
        key ∈ file.links.map (·.id) := by
  unfold knownLinks
  cases noDefaults <;> simp

/-- The ids that keys are compared with are those of the links that can be found. -/
theorem mem_knownLinks_iff (hpath : source.fileIn around = some path)
    (hfile : Loading.configAt? around path = some file) {key : String} :
    key ∈ knownLinks source.noDefaults file (source.load.run around).outcome ↔
      Defines around source path file key := by
  cases hload : (source.load.run around).outcome with
  | error cause =>
    rw [mem_knownLinks_error]
    constructor
    · rintro (⟨hd, hk⟩ | hk)
      · exact .builtIn hd hk
      · exact .own hk
    · intro hdefines
      cases hdefines with
      | own hk => exact .inr hk
      | builtIn hd hk => exact .inl ⟨hd, hk⟩
      | included hok =>
        rw [hload] at hok
        cases hok
  | ok effective =>
    rcases ConfigSource.load_ok_iff.mp hload with ⟨hnone, -⟩ | ⟨other, hother, hok⟩
    · rw [hpath] at hnone
      cases hnone
    · obtain rfl := Option.some.inj (hpath.symm.trans hother)
      obtain ⟨loaded, hloaded, rfl⟩ := ConfigSource.loadFile_ok_iff.mp hok
      refine mem_ids_layered.trans ?_
      rw [mem_ids_load hloaded]
      constructor
      · rintro (⟨hd, hk⟩ | ⟨chain, hc, member, hm, held, hat, hk⟩)
        · exact .builtIn hd hk
        · exact .included hload hc hm hat hk
      · intro hdefines
        cases hdefines with
        | own hk =>
          exact .inr ⟨[path], .start path, path, List.mem_singleton.mpr rfl, file, hfile, hk⟩
        | builtIn hd hk => exact .inl ⟨hd, hk⟩
        | included _ hc hm hat hk => exact .inr ⟨_, hc, _, hm, _, hat, hk⟩

/-! ## What is reported -/

/-- A key that a finding calls unknown is not among the known ones. -/
theorem notMem_knownLinks {noDefaults : Bool} {effective : Except ConfigError Config}
    {finding : Finding} (hm : finding ∈ findings noDefaults file effective) {ruleId key : String}
    (h : finding.Accuses ruleId key) : key ∉ knownLinks noDefaults file effective := by
  rw [findings] at hm
  cases hproblems : ConfigProblem.ofConfig (knownLinks noDefaults file effective) file with
  | nil =>
    rw [hproblems] at hm
    cases effective with
    | error cause =>
      rw [List.mem_singleton.mp hm] at h
      cases h
    | ok config =>
      simp only [Finding.ofEffective] at hm
      cases hc : Registries.compile config with
      | ok registries =>
        rw [hc] at hm
        cases hm
      | error cause =>
        rw [hc] at hm
        rw [List.mem_singleton.mp hm] at h
        cases h
        obtain ⟨problem, hp, hnames⟩ := ConfigProblem.named_of_compile hc
        cases hnames
        obtain ⟨rule, -, -, -, hunknown⟩ := ConfigProblem.unknownLink_mem_iff.mp hp
        exact hunknown
  | cons problem problems =>
    rw [hproblems] at hm
    obtain ⟨named, hp, rfl⟩ := List.mem_map.mp hm
    cases h
    rw [← hproblems] at hp
    obtain ⟨rule, -, -, -, hunknown⟩ := ConfigProblem.unknownLink_mem_iff.mp hp
    exact hunknown

/-- A key of the file that is not known is reported. -/
theorem mem_findings {noDefaults : Bool} {effective : Except ConfigError Config} {rule : RuleConfig}
    (hr : rule ∈ file.rules) {key : String} (hk : key ∈ rule.guidance)
    (hunknown : key ∉ knownLinks noDefaults file effective) :
    .problem (.unknownLink rule.id key) ∈ findings noDefaults file effective := by
  have hproblem := ConfigProblem.unknownLink_mem_iff.mpr ⟨rule, hr, rfl, hk, hunknown⟩
  rw [findings]
  split
  · rename_i hnil
    rw [hnil] at hproblem
    cases hproblem
  · exact List.mem_map_of_mem hproblem

/-- **Unknown links.** Whatever validating a file calls an unknown key is not the id of a link that
can be found: not in the file, not in the built-in catalog unless that is left out, and not in any
file that the first one leads to if the effective configuration can be loaded. Each such key of a
rule of the file is reported. -/
theorem accuses_undefined (around : Surroundings) (source : ConfigSource) (strict : Bool)
    (found : Validation) (h : ((run source strict).run around).outcome = .ok found) :
    ∃ path file, source.fileIn around = some path ∧ Loading.configAt? around path = some file ∧
      ∃ reported : List Finding, found.errors = reported.map (·.message) ∧
        reported = findings source.noDefaults file (source.load.run around).outcome ∧
        (∀ finding ∈ reported, ∀ ruleId key, finding.Accuses ruleId key →
          ¬Defines around source path file key) ∧
        ∀ rule ∈ file.rules, ∀ key ∈ rule.guidance, ¬Defines around source path file key →
          .problem (.unknownLink rule.id key) ∈ reported := by
  obtain ⟨path, hpath⟩ : ∃ path, source.fileIn around = some path := by
    cases hnone : source.fileIn around with
    | some path => exact ⟨path, rfl⟩
    | none =>
      rw [run, Inquiry.run_bind, Traced.outcome_bind, Inquiry.run_tell, Traced.outcome_tell,
        ok_bind, Inquiry.run_bind, Traced.outcome_bind, Inquiry.outcome_mapError,
        ConfigSource.outcome_file?, hnone] at h
      cases h
  rw [outcome_run strict hpath, bind_eq_ok] at h
  obtain ⟨file, hsingle, h⟩ := h
  have hfile := Loading.single_ok_iff.mp (mapError_eq_ok.mp hsingle)
  cases h
  refine ⟨path, file, hpath, hfile, _, errors_of .., rfl, ?_, ?_⟩
  · intro finding hm ruleId key haccuses hdefines
    exact notMem_knownLinks hm haccuses ((mem_knownLinks_iff hpath hfile).mpr hdefines)
  · intro rule hr key hk hundefined
    exact mem_findings hr hk fun hknown => hundefined ((mem_knownLinks_iff hpath hfile).mp hknown)

/-- A file with one key that a file below it defines and one that none does. -/
def patchyFile : Config where
  includes := ["links.toml"]
  rules := [{ id := "list", guidance := ["OWN", "NOWHERE"] }]

def patchyTree : FileTree := .ofFiles ["home"] [
  ("a11ylens.toml",
    "includes = [\"links.toml\"]\n[[rule]]\nid = \"list\"\nguidance = [\"OWN\", \"NOWHERE\"]"),
  ("links.toml", "[[link]]\nid = \"OWN\"\ntext = \"\"\nhref = \"\"")]

theorem accuses_undefined_patchy :
    let around := Surroundings.ofTree patchyTree [] ""
    (∃ found, ((run {} true).run around).outcome = .ok found ∧
        found.errors = ["Rule 'list': unknown guidance link 'NOWHERE'"]) ∧
      ¬Defines around {} "a11ylens.toml" patchyFile "NOWHERE" ∧
      Defines around {} "a11ylens.toml" patchyFile "OWN" := by
  intro around
  have hrun : (((run {} true).run around).outcome.toOption.map (·.errors))
      = some ["Rule 'list': unknown guidance link 'NOWHERE'"] := by
    decide +kernel
  obtain ⟨found, hfound, herrors⟩ := Option.map_eq_some_iff.mp hrun
  have hok := toOption_eq_some.mp hfound
  have hfile : Loading.configAt? around "a11ylens.toml" = some patchyFile := by decide +kernel
  have hreported : findings false patchyFile (({} : ConfigSource).load.run around).outcome
      = [.problem (.unknownLink "list" "NOWHERE")] := by
    decide +kernel
  obtain ⟨path, file, hpath, hat, reported, -, rfl, haccuses, hall⟩ :=
    accuses_undefined around {} true found hok
  obtain rfl : path = "a11ylens.toml" :=
    Option.some.inj (hpath.symm.trans (by decide +kernel))
  obtain rfl := Option.some.inj (hat.symm.trans hfile)
  rw [hreported] at haccuses hall
  refine ⟨⟨found, hok, herrors⟩, ?_, ?_⟩
  · exact haccuses _ (List.mem_singleton.mpr rfl) "list" "NOWHERE" .problem
  · by_contra hundefined
    have hown := hall _ (List.mem_singleton.mpr rfl) "OWN" (by decide) hundefined
    exact absurd hown (by decide)

/-- A file that includes one with a link and one that is missing. -/
def tornTree : FileTree := .ofFiles ["home"] [
  ("a11ylens.toml",
    "includes = [\"links.toml\", \"missing.toml\"]\n[[rule]]\nid = \"list\"\nguidance = [\"OWN\"]"),
  ("links.toml", "[[link]]\nid = \"OWN\"\ntext = \"\"\nhref = \"\"")]

/-- Beside a file that is missing, a link that can be read is not looked up. -/
theorem accuses_included :
    let around := Surroundings.ofTree tornTree [] ""
    (∃ found, ((run {} false).run around).outcome = .ok found ∧
        found.errors = ["Rule 'list': unknown guidance link 'OWN'"]) ∧
      Loading.Chain around "a11ylens.toml" ["a11ylens.toml", "links.toml"] ∧
      ∃ held, Loading.configAt? around "links.toml" = some held ∧
        "OWN" ∈ held.links.map (·.id) := by
  intro around
  have hrun : (((run {} false).run around).outcome.toOption.map (·.errors))
      = some ["Rule 'list': unknown guidance link 'OWN'"] := by
    decide +kernel
  obtain ⟨found, hfound, herrors⟩ := Option.map_eq_some_iff.mp hrun
  have hfile : ((Loading.configAt? around "a11ylens.toml").map (·.includes))
      = some ["links.toml", "missing.toml"] := by
    decide +kernel
  obtain ⟨file, hat, hincludes⟩ := Option.map_eq_some_iff.mp hfile
  have hlinks : ((Loading.configAt? around "links.toml").map fun held => held.links.map (·.id))
      = some ["OWN"] := by
    decide +kernel
  obtain ⟨held, hheld, hids⟩ := Option.map_eq_some_iff.mp hlinks
  refine ⟨⟨found, toOption_eq_some.mp hfound, herrors⟩, ?_, held, hheld, ?_⟩
  · have hw : "links.toml" ∈ file.includes := by
      rw [hincludes]
      decide
    have hpath : Loading.included "a11ylens.toml" "links.toml" = "links.toml" := by decide +kernel
    have hstart : Loading.Chain around (Loading.included "a11ylens.toml" "links.toml")
        ["links.toml"] := by
      rw [hpath]
      exact .start _
    exact .into hat hw hstart
  · rw [hids]
    decide

end Validation
end AccessReport
