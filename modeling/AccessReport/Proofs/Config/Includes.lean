import AccessReport.Proofs.Config.Chains
import AccessReport.Proofs.Config.Visited
import AccessReport.Proofs.Outcomes
/-!
# Resolving includes

The loader keeps the full paths of the files that led to the one it is at and counts how many more
may follow. What comes of that is what the tree of includes says without either.

* `loadBehind_ok_iff`: one step of the loader, with all that has to go well in it.
* `loadBehind_succeeds_iff`: a load goes well if and only if all chains of files are sound.
* `loadBehind_combines`: what is loaded is what the files of the tree make together.
* `load_meets_tree`: both, for a load from the start.
-/
namespace AccessReport

namespace Loading

variable {around : Surroundings}

/-! ## One file -/

theorem single_ok_iff {path : String} {config : Config} :
    ((single path).run around).outcome = .ok config ↔ configAt? around path = some config := by
  unfold single configAt?
  rw [Inquiry.run_bind, Traced.outcome_bind, Inquiry.run_read, Traced.outcome_pure, ok_bind]
  cases around.read path with
  | error cause => constructor <;> intro h <;> cases h
  | ok text =>
    rw [Inquiry.run_bind, Traced.outcome_bind, Inquiry.outcome_mapError]
    simp only [Except.toOption, Option.bind_eq_bind, Option.bind_some]
    cases ((Expansion.expand text).run around).outcome with
    | error cause => constructor <;> intro h <;> cases h
    | ok expanded =>
      rw [Traced.mapError_ok, ok_bind, Option.bind_some]
      cases Config.ofToml? expanded with
      | none => constructor <;> intro h <;> cases h
      | some held =>
        rw [Inquiry.run_pure, Traced.outcome_pure, Except.ok.injEq, Option.some.injEq]

theorem go_eq_none_iff {seen ids : List String} :
    firstRepeated.go seen ids = none ↔ ids.Nodup ∧ ∀ id ∈ ids, id ∉ seen := by
  induction ids generalizing seen with
  | nil => simp [firstRepeated.go]
  | cons id rest ih =>
    rw [firstRepeated.go, List.nodup_cons, List.forall_mem_cons]
    by_cases hs : id ∈ seen
    · simp [hs]
    · have hc : ¬ seen.contains id = true := by simpa using hs
      rw [if_neg hc, ih]
      constructor
      · rintro ⟨hn, hrest⟩
        refine ⟨⟨fun hm => hrest id hm List.mem_cons_self, hn⟩, hs, ?_⟩
        exact fun other ho hm => hrest other ho (List.mem_cons_of_mem _ hm)
      · rintro ⟨⟨hm, hn⟩, -, hrest⟩
        refine ⟨hn, fun other ho hc => ?_⟩
        rcases List.mem_cons.mp hc with rfl | hc
        · exact hm ho
        · exact hrest other ho hc

theorem firstRepeated_eq_none_iff {ids : List String} : firstRepeated ids = none ↔ ids.Nodup := by
  rw [firstRepeated, go_eq_none_iff]
  simp

theorem rejectRepeated_ok_iff {path : String} {config : Config} {done : Unit} :
    rejectRepeated path config = .ok done ↔
      (config.rules.map (·.id)).Nodup ∧ (config.links.map (·.id)).Nodup := by
  rw [← firstRepeated_eq_none_iff, ← firstRepeated_eq_none_iff]
  unfold rejectRepeated
  cases firstRepeated (config.rules.map (·.id)) with
  | some ruleId => simp
  | none => cases firstRepeated (config.links.map (·.id)) <;> simp

/-! ## One step of the loader -/

/-- What the loader does about one include of a file. -/
def mergeIncluded (levels : Nat) (met : List String) (path : String) (merged : Config)
    (written : String) : Inquiry ConfigError Config := do
  Inquiry.tell (.resolvingInclude written (baseOf path))
  if ← Inquiry.exists? (included path written) then
    pure (merged.merge (← loadBehind levels met (included path written)))
  else Inquiry.fail (.includeMissing (included path written) written)

/-- What the loader does about all includes of a file. -/
def withIncludes (levels : Nat) (met : List String) (path : String) (config : Config) :
    Inquiry ConfigError Config :=
  if config.includes.isEmpty then pure config
  else do
    let included ← config.includes.foldlM (mergeIncluded levels met path) {}
    pure (included.merge config)

theorem loadBehind_succ (levels : Nat) (met : List String) (path : String) :
    loadBehind (levels + 1) met path = (do
      match ← Inquiry.canonical path with
      | .error cause => Inquiry.fail (.unlocatable path cause)
      | .ok location =>
        if met.contains location then Inquiry.fail (.circular path)
        else
          Inquiry.tell (.loadingFile path (maxDepth - levels))
          let config ← single path
          Inquiry.ofExcept (rejectRepeated path config)
          withIncludes levels (location :: met) path config) := rfl

/-- A file that can be loaded exists. -/
theorem exists_of_loadBehind {levels : Nat} {met : List String} {path : String} {config : Config}
    (h : ((loadBehind levels met path).run around).outcome = .ok config) :
    around.exists? path = true := by
  cases levels with
  | zero => cases h
  | succ levels =>
    rw [loadBehind, Inquiry.run_bind, Traced.outcome_bind, Inquiry.run_canonical] at h
    rw [Surroundings.exists_iff]
    cases hl : around.canonical path with
    | ok location => exact ⟨location, rfl⟩
    | error cause =>
      rw [hl] at h
      cases h

theorem mergeIncluded_ok_iff {levels : Nat} {met : List String} {path : String} (merged : Config)
    (written : String) (next : Config) :
    ((mergeIncluded levels met path merged written).run around).outcome = .ok next ↔
      ∃ part, ((loadBehind levels met (included path written)).run around).outcome = .ok part ∧
        next = merged.merge part := by
  simp only [mergeIncluded, Inquiry.run_bind, Traced.outcome_bind, Inquiry.run_tell,
    Traced.outcome_tell, Inquiry.run_exists, Traced.outcome_pure, ok_bind]
  by_cases he : around.exists? (included path written) = true
  · rw [if_pos he, Inquiry.run_bind, Traced.outcome_bind, bind_eq_ok]
    constructor
    · rintro ⟨part, hp, h⟩
      cases h
      exact ⟨part, hp, rfl⟩
    · rintro ⟨part, hp, rfl⟩
      exact ⟨part, hp, rfl⟩
  · rw [if_neg he]
    constructor
    · intro h
      cases h
    · rintro ⟨part, hp, -⟩
      exact absurd (exists_of_loadBehind hp) he

/-- The includes of a file are loaded one by one, each with the same files before it, and merged
in their order; the file comes last. -/
theorem withIncludes_ok_iff {levels : Nat} {met : List String} {path : String}
    {config result : Config} :
    ((withIncludes levels met path config).run around).outcome = .ok result ↔
      ∃ parts, List.Forall₂ (fun written part =>
          ((loadBehind levels met (included path written)).run around).outcome = .ok part)
          config.includes parts ∧
        result = if config.includes = [] then config
          else (parts.foldl Config.merge {}).merge config := by
  unfold withIncludes
  by_cases hi : config.includes = []
  · have he : config.includes.isEmpty = true := List.isEmpty_iff.mpr hi
    rw [if_pos he]
    simp only [if_pos hi]
    rw [hi]
    constructor
    · intro h
      cases h
      exact ⟨[], .nil, rfl⟩
    · rintro ⟨parts, -, rfl⟩
      rfl
  · have he : ¬ config.includes.isEmpty = true := fun h => hi (List.isEmpty_iff.mp h)
    rw [if_neg he, Inquiry.run_bind, Traced.outcome_bind, bind_eq_ok, Inquiry.outcome_foldlM]
    simp only [if_neg hi, foldlM_join_ok_iff mergeIncluded_ok_iff]
    constructor
    · rintro ⟨included, ⟨parts, hf, rfl⟩, h⟩
      cases h
      exact ⟨parts, hf, rfl⟩
    · rintro ⟨parts, hf, rfl⟩
      exact ⟨_, ⟨parts, hf, rfl⟩, rfl⟩

/-- A load goes well if and only if the file exists, has not been met, holds a configuration that
defines each id once, and the loads of all that it includes go well. -/
theorem loadBehind_ok_iff {levels : Nat} {met : List String} {path : String} {result : Config} :
    ((loadBehind (levels + 1) met path).run around).outcome = .ok result ↔
      ∃ location config, around.canonical path = .ok location ∧ location ∉ met ∧
        configAt? around path = some config ∧ (config.rules.map (·.id)).Nodup ∧
        (config.links.map (·.id)).Nodup ∧
        ((withIncludes levels (location :: met) path config).run around).outcome
          = .ok result := by
  rw [loadBehind_succ, Inquiry.run_bind, Traced.outcome_bind, Inquiry.run_canonical,
    Traced.outcome_pure, ok_bind]
  cases around.canonical path with
  | error cause =>
    constructor
    · intro h
      cases h
    · rintro ⟨location, config, h, -⟩
      cases h
  | ok location =>
    by_cases hm : location ∈ met
    · have hc : met.contains location = true := by simpa using hm
      simp only [if_pos hc]
      constructor
      · intro h
        cases h
      · rintro ⟨other, config, h, hnew, -⟩
        cases h
        exact absurd hm hnew
    · have hc : ¬ met.contains location = true := by simpa using hm
      simp only [if_neg hc, Inquiry.run_bind, Traced.outcome_bind, Inquiry.run_tell,
        Traced.outcome_tell, ok_bind, bind_eq_ok, single_ok_iff, Inquiry.run_ofExcept,
        Traced.outcome_ofExcept, rejectRepeated_ok_iff]
      constructor
      · rintro ⟨config, hconfig, -, ⟨hr, hk⟩, h⟩
        exact ⟨location, config, rfl, hm, hconfig, hr, hk, h⟩
      · rintro ⟨other, config, hother, -, hconfig, hr, hk, h⟩
        cases hother
        exact ⟨config, hconfig, (), ⟨hr, hk⟩, h⟩

/-! ## Loads and chains -/

/-- A load goes well if and only if all chains of files are sound. -/
theorem loadBehind_succeeds_iff {levels : Nat} {met : List String} {path : String} :
    (∃ config, ((loadBehind levels met path).run around).outcome = .ok config) ↔
      SoundFrom around levels met path := by
  induction levels generalizing met path with
  | zero =>
    refine ⟨?_, fun h => absurd h not_soundFrom_zero⟩
    rintro ⟨config, h⟩
    cases h
  | succ levels ih =>
    rw [soundFrom_succ]
    simp only [← ih, ← exists_forall₂_iff]
    constructor
    · rintro ⟨result, h⟩
      obtain ⟨location, config, hl, hm, hc, hr, hk, h⟩ := loadBehind_ok_iff.mp h
      obtain ⟨parts, hf, -⟩ := withIncludes_ok_iff.mp h
      exact ⟨location, config, hl, hm, hc, hr, hk, parts, hf⟩
    · rintro ⟨location, config, hl, hm, hc, hr, hk, parts, hf⟩
      exact ⟨_, loadBehind_ok_iff.mpr ⟨location, config, hl, hm, hc, hr, hk,
        withIncludes_ok_iff.mpr ⟨parts, hf, rfl⟩⟩⟩

/-! ## What is loaded -/

theorem Walk.append {path : String} {paths : List String} {files rest : List Config}
    (h : Walk around [path] files) (h' : Walk around paths rest) :
    Walk around (path :: paths) (files ++ rest) := by
  cases h with
  | cons hc hbelow hnil =>
    cases hnil
    rw [List.append_assoc, List.singleton_append]
    exact .cons hc hbelow h'

/-- Configurations that are each made by a tree, merged in order, are made by the trees. -/
theorem combines_foldl_merge {paths : List String} {parts : List Config}
    (h : List.Forall₂ (fun path part => ∃ files, Walk around [path] files ∧
      Config.Combines files part) paths parts) {files : List Config} {base : Config}
    (hb : Config.Combines files base) :
    ∃ below, Walk around paths below ∧
      Config.Combines (files ++ below) (parts.foldl Config.merge base) := by
  induction h generalizing files base with
  | nil => exact ⟨[], .nil, by rwa [List.append_nil]⟩
  | cons hpart _ ih =>
    obtain ⟨first, hw, hfirst⟩ := hpart
    obtain ⟨rest, hrest, hall⟩ := ih (hb.merge hfirst)
    exact ⟨first ++ rest, hw.append hrest, by rwa [← List.append_assoc]⟩

/-- What is loaded is what the files of the tree make together. -/
theorem loadBehind_combines {levels : Nat} {met : List String} {path : String} {result : Config}
    (h : ((loadBehind levels met path).run around).outcome = .ok result) :
    result.includes = [] ∧ ∃ files, Walk around [path] files ∧ Config.Combines files result := by
  induction levels generalizing met path result with
  | zero => cases h
  | succ levels ih =>
    obtain ⟨location, config, -, -, hc, hr, hk, h⟩ := loadBehind_ok_iff.mp h
    obtain ⟨parts, hf, rfl⟩ := withIncludes_ok_iff.mp h
    have hparts : List.Forall₂ (fun path part => ∃ files, Walk around [path] files ∧
        Config.Combines files part) (config.includes.map (included path)) parts :=
      List.forall₂_map_left_iff.mpr (hf.imp fun _ _ hpart => (ih hpart).2)
    obtain ⟨below, hbelow, hall⟩ := combines_foldl_merge hparts .nil
    have hwalk : Walk around [path] (below ++ [config]) := .cons hc hbelow .nil
    by_cases hi : config.includes = []
    · rw [if_pos hi]
      rw [hi] at hbelow
      cases hbelow
      exact ⟨hi, [config], hwalk, .single hr hk⟩
    · rw [if_neg hi]
      exact ⟨rfl, below ++ [config], hwalk, hall.merge (.single hr hk)⟩

theorem load_combines {path : String} {config : Config}
    (h : ((load path).run around).outcome = .ok config) :
    config.includes = [] ∧ ∃ files, Walk around [path] files ∧ Config.Combines files config := by
  rw [load_eq] at h
  exact loadBehind_combines h

/-- **Includes.** A load goes well if and only if every chain of files from the first one is
sound, and then gives what the files make together, each behind those that it includes. -/
theorem load_meets_tree (around : Surroundings) (path : String) :
    ((∃ config, ((load path).run around).outcome = .ok config) ↔ Loadable around path) ∧
      ∀ config, ((load path).run around).outcome = .ok config →
        config.includes = [] ∧ ∃ files, Walk around [path] files ∧ config.Combines files := by
  constructor
  · rw [load_eq, loadable_iff]
    exact loadBehind_succeeds_iff
  · exact fun config => load_combines

/-- Two files that include the same one. -/
def diamond : Surroundings where
  read path :=
    if path = "root.toml" then .ok "includes = [\"left.toml\", \"right.toml\"]"
    else if path = "shared.toml" then .ok "[[rule]]\nid = \"alt\""
    else .ok "includes = [\"shared.toml\"]"
  canonical path := .ok path
  value? _ := none
  input := .ok ""

theorem load_diamond :
    Loadable diamond "root.toml" ∧ ∃ config,
      ((load "root.toml").run diamond).outcome = .ok config ∧
      config.rules.map (·.id) = ["alt"] ∧ config.includes = [] ∧
      ∃ files, Walk diamond ["root.toml"] files ∧ config.Combines files := by
  have hload : (((load "root.toml").run diamond).outcome.toOption.map fun config =>
      config.rules.map (·.id)) = some ["alt"] := by
    decide +kernel
  obtain ⟨config, hconfig, hids⟩ := Option.map_eq_some_iff.mp hload
  have hok := toOption_eq_some.mp hconfig
  obtain ⟨hiff, hmeets⟩ := load_meets_tree diamond "root.toml"
  obtain ⟨hincludes, hwalk⟩ := hmeets config hok
  exact ⟨hiff.mp ⟨config, hok⟩, config, hok, hids, hincludes, hwalk⟩

end Loading
end AccessReport
