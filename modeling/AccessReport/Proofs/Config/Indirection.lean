import AccessReport.Proofs.Config.Effective
/-!
# Including a single file

A file that does nothing but include another one should say what the other one says. What is loaded
does not depend on how the loader came to a file, so all that is left to compare is the other file
with what is made by laying it over nothing. A file that includes others has been through that
already. One that includes nothing is loaded as it stands, and then only a message that it repeats
makes a difference: laid over nothing, each message is there once.

* `Config.merge_empty_left`, `Config.merge_empty_right`: a configuration over nothing, and under a
  file that only includes.
* `Loading.loadBehind_unique`: what is loaded does not depend on the way to the file.
* `Loading.nodup_messages_of_loadBehind`: a file that includes others repeats no message.
* `Loading.load_through_include`: a file through another one, and when that makes no difference.
* `Loading.include_drops_repeated`: a file with which it does.
-/
namespace AccessReport

/-! ## Over nothing -/

namespace Merge

variable {α : Type} {id : α → String}

theorem byId_nil_left {entries : List α} (h : (entries.map id).Nodup) :
    byId id [] entries = entries := by
  have hnil : (([] : List α).map id).Nodup := List.nodup_nil
  apply eq_of_find? id
  · exact nodup_byId hnil entries
  · rw [ids_byId hnil, List.map_nil, List.nil_append, Grouping.eraseDups_of_nodup h]
  · intro key
    rw [find?_byId_of_nodup [] h, List.find?_nil, Option.or_none]

theorem messages_nil_left (upper : List String) : messages [] upper = upper.eraseDups := by
  induction upper using List.reverseRecOn with
  | nil => rfl
  | append_singleton upper message ih =>
    rw [messages_concat, ih, Grouping.eraseDups_concat]
    simp only [List.mem_eraseDups]

theorem nodup_messages {base : List String} (h : base.Nodup) (upper : List String) :
    (messages base upper).Nodup := by
  induction upper using List.reverseRecOn with
  | nil => exact h
  | append_singleton upper message ih =>
    rw [messages_concat]
    split
    · exact ih
    · rename_i hnew
      refine List.nodup_append.mpr ⟨ih, List.pairwise_singleton _ message, ?_⟩
      intro held hh other ho
      rw [List.mem_singleton.mp ho]
      rintro rfl
      exact hnew hh

end Merge

namespace Config

/-- Each message is listed once. -/
def withoutRepeats (config : Config) : Config :=
  { config with suppression := { messages := config.suppression.messages.eraseDups } }

theorem withoutRepeats_eq_iff {config : Config} :
    config.withoutRepeats = config ↔ config.suppression.messages.Nodup := by
  constructor
  · intro h
    have hmessages := congrArg (·.suppression.messages) h
    exact hmessages ▸ Grouping.nodup_eraseDups config.suppression.messages
  · intro h
    unfold withoutRepeats
    rw [Grouping.eraseDups_of_nodup h]

theorem merge_empty_left {config : Config} (h : config.Distinct) :
    ({} : Config).merge config = { config.withoutRepeats with includes := [] } := by
  unfold Config.merge withoutRepeats
  simp only [Merge.byId_nil_left h.rules, Merge.byId_nil_left h.links, Merge.messages_nil_left,
    Option.or_none]

/-- A file that only includes adds nothing. -/
theorem merge_empty_right (config : Config) (includes : List String) :
    config.merge { includes := includes } = { config with includes := [] } := rfl

/-- Whatever configurations are merged onto one without repeated messages, there are none. -/
theorem nodup_messages_foldl {base : Config} (h : base.suppression.messages.Nodup)
    (parts : List Config) : (parts.foldl Config.merge base).suppression.messages.Nodup := by
  induction parts generalizing base with
  | nil => exact h
  | cons part parts ih => exact ih (Merge.nodup_messages h part.suppression.messages)

end Config

/-! ## The way to a file -/

namespace Loading

variable {around : Surroundings}

theorem forall₂_unique {α β : Type} {made made' : α → β → Prop}
    (h : ∀ item part other, made item part → made' item other → part = other) {items : List α}
    {parts others : List β} (hf : List.Forall₂ made items parts)
    (hf' : List.Forall₂ made' items others) : parts = others := by
  induction hf generalizing others with
  | nil =>
    cases hf'
    rfl
  | cons hm _ ih =>
    cases hf' with
    | cons hm' hrest => rw [h _ _ _ hm hm', ih hrest]

/-- What is loaded from a file depends neither on the files that led to it nor on how many more may
come. -/
theorem loadBehind_unique {levels others : Nat} {met before : List String} {path : String}
    {result other : Config} (h : ((loadBehind levels met path).run around).outcome = .ok result)
    (h' : ((loadBehind others before path).run around).outcome = .ok other) : result = other := by
  induction levels generalizing others met before path result other with
  | zero => cases h
  | succ levels ih =>
    cases others with
    | zero => cases h'
    | succ others =>
      obtain ⟨_, config, -, -, hc, -, -, h⟩ := loadBehind_ok_iff.mp h
      obtain ⟨_, config', -, -, hc', -, -, h'⟩ := loadBehind_ok_iff.mp h'
      obtain rfl := Option.some.inj (hc.symm.trans hc')
      obtain ⟨parts, hf, rfl⟩ := withIncludes_ok_iff.mp h
      obtain ⟨parts', hf', rfl⟩ := withIncludes_ok_iff.mp h'
      have hparts : parts = parts' := by
        refine forall₂_unique ?_ hf hf'
        intro _ part other hm hm'
        exact ih hm hm'
      rw [hparts]

/-- A file that includes others is merged with them, and a file that does not is what it says. -/
theorem nodup_messages_of_loadBehind {levels : Nat} {met : List String} {path : String}
    {file result : Config} (h : ((loadBehind levels met path).run around).outcome = .ok result)
    (hfile : configAt? around path = some file) :
    if file.includes = [] then result = file else result.suppression.messages.Nodup := by
  cases levels with
  | zero => cases h
  | succ levels =>
    obtain ⟨_, config, -, -, hc, -, -, h⟩ := loadBehind_ok_iff.mp h
    obtain rfl := Option.some.inj (hfile.symm.trans hc)
    obtain ⟨parts, -, rfl⟩ := withIncludes_ok_iff.mp h
    split
    · rfl
    · have hparts : (parts.foldl Config.merge {}).suppression.messages.Nodup :=
        Config.nodup_messages_foldl List.nodup_nil parts
      exact Merge.nodup_messages hparts file.suppression.messages

/-- A file that could be loaded from one level further down, without meeting a certain location, is
loaded there as well. -/
theorem loadBehind_below {path location : String} {config : Config}
    (hload : ((load path).run around).outcome = .ok config)
    (hdepth : ∀ files, Chain around path files → files.length ≤ 10)
    (hfresh : ∀ files, Chain around path files → location ∉ locations around files) :
    ((loadBehind maxDepth [location] path).run around).outcome = .ok config := by
  rw [load_eq] at hload
  have hsound : SoundFrom around 11 [] path := loadBehind_succeeds_iff.mp ⟨config, hload⟩
  have hbelow : SoundFrom around maxDepth [location] path := by
    intro files hf
    refine ⟨hdepth files hf, (hsound files hf).distinct, ?_, (hsound files hf).sound⟩
    intro met hm hl
    exact hfresh files hf (List.mem_singleton.mp hl ▸ hm)
  obtain ⟨other, hother⟩ := loadBehind_succeeds_iff.mpr hbelow
  rw [loadBehind_unique hload hother]
  exact hother

/-- A file that only includes another one holds what is made by laying that over nothing. -/
theorem load_including {wrapper written location : String} {config : Config}
    (hwrapper : configAt? around wrapper = some { includes := [written] })
    (hlocated : around.canonical wrapper = .ok location)
    (hbelow : ((loadBehind maxDepth [location] (included wrapper written)).run around).outcome
      = .ok config) :
    ((load wrapper).run around).outcome
      = .ok ((({} : Config).merge config).merge { includes := [written] }) := by
  rw [load_eq]
  refine loadBehind_ok_iff.mpr ⟨location, _, hlocated, List.not_mem_nil, hwrapper, List.nodup_nil,
    List.nodup_nil, withIncludes_ok_iff.mpr ⟨[config], .cons hbelow .nil, ?_⟩⟩
  rw [if_neg (List.cons_ne_nil written [])]
  rfl

/-- **Including a single file.** A file that can be loaded with one level to spare can be loaded
through a new file that only includes it. The result is the same but for messages, each of which is
listed once. So nothing changes at all if and only if the file includes others or repeats no
message. -/
theorem load_through_include (around : Surroundings) {path wrapper written location : String}
    {config : Config} (hload : ((load path).run around).outcome = .ok config)
    (hdepth : ∀ files, Chain around path files → files.length ≤ 10)
    (hwrapper : configAt? around wrapper = some { includes := [written] })
    (hpath : included wrapper written = path)
    (hlocated : around.canonical wrapper = .ok location)
    (hfresh : ∀ files, Chain around path files → location ∉ locations around files) :
    ((load wrapper).run around).outcome = .ok config.withoutRepeats ∧
      ∃ file, configAt? around path = some file ∧
        (((load wrapper).run around).outcome = .ok config ↔
          file.includes ≠ [] ∨ file.suppression.messages.Nodup) := by
  have hempty : config.includes = [] := (load_combines hload).1
  have hthrough : ((load wrapper).run around).outcome = .ok config.withoutRepeats := by
    rw [load_including hwrapper hlocated (hpath ▸ loadBehind_below hload hdepth hfresh),
      Config.merge_empty_left (distinct_of_load hload), Config.merge_empty_right]
    unfold Config.withoutRepeats
    rw [hempty]
  refine ⟨hthrough, ?_⟩
  obtain ⟨file, hfile, -, -⟩ := load_keeps hload
  refine ⟨file, hfile, ?_⟩
  rw [hthrough, Except.ok.injEq, Config.withoutRepeats_eq_iff]
  have hheld := nodup_messages_of_loadBehind (load_eq path ▸ hload) hfile
  split at hheld
  · rename_i hnone
    simp [hheld, hnone]
  · rename_i hsome
    simp [hheld, hsome]

/-- A file that repeats a message, one that includes it, and two that only include these. -/
def wrapped : Surroundings where
  read path :=
    if path = "noise.toml" then .ok "[suppression]\nmessages = [\"noise\", \"noise\"]"
    else if path = "rules.toml" then .ok "includes = [\"noise.toml\"]\n[[rule]]\nid = \"alt\""
    else if path = "quiet.toml" then .ok "includes = [\"noise.toml\"]"
    else .ok "includes = [\"rules.toml\"]"
  canonical path := .ok path
  value? _ := none
  input := .ok ""

/-- A file that includes another one is loaded through a third one as it is loaded itself. -/
theorem load_through_include_rules :
    ∃ config, ((load "rules.toml").run wrapped).outcome = .ok config ∧
      config.suppression.messages = ["noise"] ∧
      ((load "main.toml").run wrapped).outcome = .ok config := by
  have hbelow : ((loadBehind maxDepth ["main.toml"] "rules.toml").run
      wrapped).outcome.toOption.isSome = true := by
    decide +kernel
  obtain ⟨below, hbelow⟩ := Option.isSome_iff_exists.mp hbelow
  have hsound := loadBehind_succeeds_iff.mp ⟨below, toOption_eq_some.mp hbelow⟩
  have hload : (((load "rules.toml").run wrapped).outcome.toOption.map fun config =>
      config.suppression.messages) = some ["noise"] := by
    decide +kernel
  obtain ⟨config, hconfig, hmessages⟩ := Option.map_eq_some_iff.mp hload
  have hok := toOption_eq_some.mp hconfig
  have hfile : ((configAt? wrapped "rules.toml").map (·.includes)) = some ["noise.toml"] := by
    decide +kernel
  have hwrapper : configAt? wrapped "main.toml" = some { includes := ["rules.toml"] } := by
    decide +kernel
  have hpath : included "main.toml" "rules.toml" = "rules.toml" := by decide +kernel
  obtain ⟨-, file, hat, hsame⟩ := load_through_include wrapped hok
    (fun files hf => (hsound files hf).short) hwrapper hpath rfl
    (fun files hf hm => (hsound files hf).fresh _ hm (List.mem_singleton.mpr rfl))
  rw [hat] at hfile
  have hincludes : file.includes ≠ [] := by
    intro hnil
    have hsome : file.includes = ["noise.toml"] := Option.some.inj hfile
    rw [hnil] at hsome
    cases hsome
  exact ⟨config, hok, hmessages, hsame.mpr (.inl hincludes)⟩

/-- A file that includes nothing and repeats a message is not loaded in the same way through another
one. -/
theorem include_drops_repeated :
    configAt? wrapped "quiet.toml" = some { includes := ["noise.toml"] } ∧
      included "quiet.toml" "noise.toml" = "noise.toml" ∧
      (∀ files, Chain wrapped "noise.toml" files → files = ["noise.toml"]) ∧
      ∃ direct through, ((load "noise.toml").run wrapped).outcome = .ok direct ∧
        ((load "quiet.toml").run wrapped).outcome = .ok through ∧
        direct.suppression.messages = ["noise", "noise"] ∧
        through.suppression.messages = ["noise"] := by
  have hfile : configAt? wrapped "noise.toml"
      = some { suppression := { messages := ["noise", "noise"] } } := by
    decide +kernel
  refine ⟨by decide +kernel, by decide +kernel, ?_, ?_⟩
  · intro files hf
    cases hf with
    | start => rfl
    | into hc hw _ =>
      obtain rfl := Option.some.inj (hfile.symm.trans hc)
      cases hw
  · have hdirect : (((load "noise.toml").run wrapped).outcome.toOption.map fun config =>
        config.suppression.messages) = some ["noise", "noise"] := by
      decide +kernel
    have hthrough : (((load "quiet.toml").run wrapped).outcome.toOption.map fun config =>
        config.suppression.messages) = some ["noise"] := by
      decide +kernel
    obtain ⟨direct, hd, hdm⟩ := Option.map_eq_some_iff.mp hdirect
    obtain ⟨through, ht, htm⟩ := Option.map_eq_some_iff.mp hthrough
    exact ⟨direct, through, toOption_eq_some.mp hd, toOption_eq_some.mp ht, hdm, htm⟩

end Loading
end AccessReport
