import AccessReport.Config.Loading
import AccessReport.Proofs.Config.Layers
/-!
# Chains of files

What a file includes, and what that includes, unfolds to a tree. It is described here by the
chains of files that lead into it and by the order in which a walk meets its files; nothing keeps
count of files that were met before.

* `soundFrom_succ`: all chains from a file are sound if and only if the file is and the chains
  from all that it includes are.
* `Walk.mem_iff`: it meets those that a chain leads to.
-/
namespace AccessReport.Loading

/-- The path of a file that is included under a written path. -/
def included (path written : String) : String := Path.join (baseOf path) written

section
variable (around : Surroundings)

/-- The configuration in a file, with the variables in its text replaced. -/
def configAt? (path : String) : Option Config := do
  let text ← (around.read path).toOption
  let expanded ← ((Expansion.expand text).run around).outcome.toOption
  Config.ofToml? expanded

/-- A file that exists and holds a configuration which defines each id once. -/
structure SoundFile (path : String) : Prop where
  located : ∃ location, around.canonical path = .ok location
  readable : ∃ config, configAt? around path = some config ∧
    (config.rules.map (·.id)).Nodup ∧ (config.links.map (·.id)).Nodup

/-- The full paths of those files that exist. -/
def locations (files : List String) : List String :=
  files.filterMap fun path => (around.canonical path).toOption

/-- A way into the tree below a file: each file of a chain is included by the one before. -/
inductive Chain : String → List String → Prop where
  | start (path : String) : Chain path [path]
  | into {path written : String} {config : Config} {files : List String} :
      configAt? around path = some config → written ∈ config.includes →
      Chain (included path written) files → Chain path (path :: files)

/-- Walking through the trees below several files, the configurations that they hold, each behind
those that it includes. -/
inductive Walk : List String → List Config → Prop where
  | nil : Walk [] []
  | cons {path : String} {paths : List String} {config : Config} {below rest : List Config} :
      configAt? around path = some config →
      Walk (config.includes.map (included path)) below → Walk paths rest →
      Walk (path :: paths) (below ++ config :: rest)

/-- What is asked of the chains from a file: no chain has more than 11 files or meets a file
twice, and all files on it are sound. Two chains may well meet the same file. -/
def Loadable (path : String) : Prop :=
  ∀ files, Chain around path files →
    files.length ≤ 11 ∧ (locations around files).Nodup ∧ ∀ file ∈ files, SoundFile around file

/-- The files of a chain are sound where another chain has led to the first of them: it has met
some full paths, and so many more files may come. -/
structure SoundChain (levels : Nat) (met files : List String) : Prop where
  short : files.length ≤ levels
  distinct : (locations around files).Nodup
  fresh : ∀ location ∈ locations around files, location ∉ met
  sound : ∀ file ∈ files, SoundFile around file

/-- All chains from a file are sound. -/
def SoundFrom (levels : Nat) (met : List String) (path : String) : Prop :=
  ∀ files, Chain around path files → SoundChain around levels met files

end

variable {around : Surroundings}

theorem loadable_iff {path : String} : Loadable around path ↔ SoundFrom around 11 [] path := by
  constructor
  · intro h files hc
    obtain ⟨hshort, hdistinct, hsound⟩ := h files hc
    exact ⟨hshort, hdistinct, fun _ _ => List.not_mem_nil, hsound⟩
  · intro h files hc
    exact ⟨(h files hc).short, (h files hc).distinct, (h files hc).sound⟩

/-! ## One step down -/

theorem locations_cons {path location : String} (h : around.canonical path = .ok location)
    (files : List String) :
    locations around (path :: files) = location :: locations around files := by
  have hsome : (around.canonical path).toOption = some location := by rw [h]; rfl
  exact List.filterMap_cons_some hsome

theorem soundChain_nil (levels : Nat) (met : List String) : SoundChain around levels met [] where
  short := Nat.zero_le levels
  distinct := List.nodup_nil
  fresh := fun _ h => absurd h List.not_mem_nil
  sound := fun _ h => absurd h List.not_mem_nil

/-- The first file of a chain is one more that the others must not meet. -/
theorem soundChain_cons {levels : Nat} {met files : List String} {path location : String}
    (hl : around.canonical path = .ok location) :
    SoundChain around (levels + 1) met (path :: files) ↔
      location ∉ met ∧ SoundFile around path ∧
        SoundChain around levels (location :: met) files := by
  constructor
  · rintro ⟨hshort, hdistinct, hfresh, hsound⟩
    rw [locations_cons hl, List.nodup_cons] at hdistinct
    rw [locations_cons hl] at hfresh
    refine ⟨hfresh location List.mem_cons_self, hsound path List.mem_cons_self, ?_⟩
    constructor
    · rw [List.length_cons] at hshort
      omega
    · exact hdistinct.2
    · intro other ho
      rw [List.mem_cons, not_or]
      refine ⟨?_, hfresh other (List.mem_cons_of_mem _ ho)⟩
      rintro rfl
      exact hdistinct.1 ho
    · exact fun file hf => hsound file (List.mem_cons_of_mem _ hf)
  · rintro ⟨hnew, hfile, hshort, hdistinct, hfresh, hsound⟩
    constructor
    · rw [List.length_cons]
      omega
    · rw [locations_cons hl, List.nodup_cons]
      exact ⟨fun hm => hfresh location hm List.mem_cons_self, hdistinct⟩
    · intro other ho
      rw [locations_cons hl, List.mem_cons] at ho
      rcases ho with rfl | ho
      · exact hnew
      · exact fun hmet => hfresh other ho (List.mem_cons_of_mem _ hmet)
    · intro file hf
      rcases List.mem_cons.mp hf with rfl | hf
      · exact hfile
      · exact hsound file hf

/-- No chain is short enough where no more files may come. -/
theorem not_soundFrom_zero {met : List String} {path : String} :
    ¬ SoundFrom around 0 met path := by
  intro h
  have hshort := (h [path] (.start path)).short
  rw [List.length_singleton] at hshort
  omega

/-- All chains from a file are sound if and only if the file is, it has not been met, and the
chains from all that it includes are sound behind it. -/
theorem soundFrom_succ {levels : Nat} {met : List String} {path : String} :
    SoundFrom around (levels + 1) met path ↔
      ∃ location config, around.canonical path = .ok location ∧ location ∉ met ∧
        configAt? around path = some config ∧ (config.rules.map (·.id)).Nodup ∧
        (config.links.map (·.id)).Nodup ∧ ∀ written ∈ config.includes,
          SoundFrom around levels (location :: met) (included path written) := by
  constructor
  · intro h
    have hstart := h [path] (.start path)
    obtain ⟨⟨location, hl⟩, config, hc, hr, hk⟩ :=
      hstart.sound path (List.mem_singleton.mpr rfl)
    refine ⟨location, config, hl, ((soundChain_cons hl).mp hstart).1, hc, hr, hk, ?_⟩
    intro written hw files hf
    exact ((soundChain_cons hl).mp (h (path :: files) (.into hc hw hf))).2.2
  · rintro ⟨location, config, hl, hnew, hc, hr, hk, hbelow⟩ files hf
    have hfile : SoundFile around path := ⟨⟨location, hl⟩, config, hc, hr, hk⟩
    cases hf with
    | start => exact (soundChain_cons hl).mpr ⟨hnew, hfile, soundChain_nil _ _⟩
    | @into _ written other files hother hw hf =>
      obtain rfl : config = other := Option.some.inj (hc.symm.trans hother)
      exact (soundChain_cons hl).mpr ⟨hnew, hfile, hbelow written hw files hf⟩

/-! ## The walk -/

/-- What a file on a chain holds is what the first file holds, or it is on a chain from a file that
the first one includes. -/
theorem onChain_iff {path : String} {config : Config} (hc : configAt? around path = some config)
    {held : Config} :
    (∃ files, Chain around path files ∧ ∃ member ∈ files, configAt? around member = some held) ↔
      held = config ∨ ∃ written ∈ config.includes, ∃ files,
        Chain around (included path written) files ∧
          ∃ member ∈ files, configAt? around member = some held := by
  constructor
  · rintro ⟨files, hf, member, hm, hheld⟩
    cases hf with
    | start =>
      rw [List.mem_singleton.mp hm] at hheld
      exact .inl (Option.some.inj (hheld.symm.trans hc))
    | into hother hw hf =>
      obtain rfl := Option.some.inj (hother.symm.trans hc)
      rcases List.mem_cons.mp hm with rfl | hm
      · exact .inl (Option.some.inj (hheld.symm.trans hc))
      · exact .inr ⟨_, hw, _, hf, member, hm, hheld⟩
  · rintro (rfl | ⟨written, hw, files, hf, member, hm, hheld⟩)
    · exact ⟨[path], .start path, path, List.mem_singleton.mpr rfl, hc⟩
    · exact ⟨path :: files, .into hc hw hf, member, List.mem_cons_of_mem path hm, hheld⟩

/-- A walk meets what the files hold that a chain leads to. -/
theorem Walk.mem_iff {paths : List String} {files : List Config} (h : Walk around paths files)
    {held : Config} :
    held ∈ files ↔ ∃ path ∈ paths, ∃ chain, Chain around path chain ∧
      ∃ member ∈ chain, configAt? around member = some held := by
  induction h with
  | nil => simp
  | @cons path paths config below rest hc _ _ ihbelow ihrest =>
    simp only [List.mem_cons, exists_eq_or_imp, List.mem_append, onChain_iff hc, ihbelow, ihrest,
      List.mem_map, exists_exists_and_eq_and]
    exact or_left_comm.trans or_assoc.symm

end AccessReport.Loading
