import AccessReport.Proofs.Config.Layers
/-!
# The algebra of merging

Entries with distinct ids are known by the order of their ids and by the entry under each. Both are
known for merged entries, so that it does not matter how three configurations are grouped, and
merging again what was merged changes nothing.

* `Merge.find?_perm`, `Merge.eq_of_find?`: when the same entries are found in two lists, and when
  the lists are equal.
* `Merge.byId_assoc`, `Merge.byId_self`, `Merge.over_byId`: entries laid over others.
* `Merge.messages_assoc`, `Merge.messages_self`: messages added up.
* `Config.merge_assoc`, `Config.merge_self`: configurations.
* `Config.merge_laws`: all of it, and what stands where in a merged configuration.
-/
namespace AccessReport

namespace Merge

variable {α : Type} {id : α → String}

/-! ## Entries over entries -/

/-- What is found under its own id is the entry itself. -/
theorem find?_of_mem {entries : List α} (h : (entries.map id).Nodup) {entry : α}
    (hm : entry ∈ entries) : entries.find? (id · == id entry) = some entry := by
  induction entries with
  | nil => exact absurd hm List.not_mem_nil
  | cons first rest ih =>
    rw [List.map_cons, List.nodup_cons] at h
    rcases List.mem_cons.mp hm with rfl | hm
    · rw [List.find?_cons, beq_self_eq_true]
    · have hne : (id first == id entry) = false := beq_eq_false_iff_ne.mpr fun he =>
        h.1 (he ▸ List.mem_map_of_mem hm)
      rw [List.find?_cons, hne]
      exact ih h.2 hm

theorem find?_eq_none_iff {entries : List α} {key : String} :
    entries.find? (id · == key) = none ↔ key ∉ entries.map id := by
  simp

/-- The order of entries with distinct ids does not matter for finding them. -/
theorem find?_perm {entries others : List α} (h : entries.Perm others)
    (hn : (entries.map id).Nodup) (key : String) :
    entries.find? (id · == key) = others.find? (id · == key) := by
  cases hfound : entries.find? (id · == key) with
  | none =>
    have hnone := find?_eq_none_iff.mp hfound
    exact (find?_eq_none_iff.mpr fun hm => hnone ((h.map id).mem_iff.mpr hm)).symm
  | some entry =>
    have hkey : id entry = key := by simpa using List.find?_some hfound
    have hm : entry ∈ others := h.mem_iff.mp (List.mem_of_find?_eq_some hfound)
    rw [← hkey]
    exact (find?_of_mem ((h.map id).nodup_iff.mp hn) hm).symm

/-- Entries with distinct ids are equal if their ids stand in one order and the same entry is found
under each. -/
theorem eq_of_find? (id : α → String) {entries others : List α} (hn : (entries.map id).Nodup)
    (hids : entries.map id = others.map id)
    (hfind : ∀ key, entries.find? (id · == key) = others.find? (id · == key)) :
    entries = others := by
  apply List.ext_getElem
  · rw [← List.length_map id, hids, List.length_map]
  · intro i hi hj
    have hkey : id entries[i] = id others[i] := by
      have hget := List.getElem_of_eq hids (by simpa using hi)
      simpa using hget
    have hleft := find?_of_mem hn (List.getElem_mem hi)
    have hright := find?_of_mem (hids ▸ hn) (List.getElem_mem hj)
    rw [hkey, hfind, hright] at hleft
    exact (Option.some.inj hleft).symm

/-- What entries laid over others are: first the ids that were there, in their places, then the new
ones in their order; all upper entries, and those below that none of them replaces. -/
structure Over (id : α → String) (base upper entries : List α) : Prop where
  ids : entries.map id = base.map id ++ (upper.map id).filter fun key => key ∉ base.map id
  distinct : (entries.map id).Nodup
  wins : ∀ entry ∈ upper, entry ∈ entries
  stays : ∀ entry ∈ base, id entry ∉ upper.map id → entry ∈ entries

theorem nodup_byId {base : List α} (h : (base.map id).Nodup) (upper : List α) :
    ((byId id base upper).map id).Nodup := by
  rw [ids_byId h]
  exact Grouping.nodup_eraseDups _

/-- Where each id of the upper entries is there once, they are all found. -/
theorem find?_byId_of_nodup (base : List α) {upper : List α} (h : (upper.map id).Nodup)
    (key : String) : (byId id base upper).find? (id · == key)
      = (upper.find? (id · == key)).or (base.find? (id · == key)) := by
  rw [find?_byId, find?_reverse h]

theorem mem_byId_upper (base : List α) {upper : List α} (h : (upper.map id).Nodup) {entry : α}
    (hm : entry ∈ upper) : entry ∈ byId id base upper := by
  have hfound : (byId id base upper).find? (id · == id entry) = some entry := by
    rw [find?_byId_of_nodup base h, find?_of_mem h hm, Option.some_or]
  exact List.mem_of_find?_eq_some hfound

theorem over_byId {base upper : List α} (hb : (base.map id).Nodup) (hu : (upper.map id).Nodup) :
    Over id base upper (byId id base upper) where
  ids := by
    have hnew : ((upper.map id).filter fun key => key ∉ base.map id).Nodup := hu.filter _
    have hsame : (upper.map id).removeAll (base.map id)
        = (upper.map id).filter fun key => key ∉ base.map id := by
      unfold List.removeAll
      simp only [List.elem_eq_mem, decide_not]
    rw [ids_byId hb, List.eraseDups_append, Grouping.eraseDups_of_nodup hb, hsame,
      Grouping.eraseDups_of_nodup hnew]
  distinct := nodup_byId hb upper
  wins _ hm := mem_byId_upper base hu hm
  stays entry hm hnew := by
    have hfound : (byId id base upper).find? (id · == id entry) = some entry := by
      rw [find?_byId_of_nodup base hu, find?_eq_none_iff.mpr hnew, Option.none_or,
        find?_of_mem hb hm]
    exact List.mem_of_find?_eq_some hfound

theorem byId_assoc {lower middle upper : List α} (hl : (lower.map id).Nodup)
    (hm : (middle.map id).Nodup) (hu : (upper.map id).Nodup) :
    byId id (byId id lower middle) upper = byId id lower (byId id middle upper) := by
  -- Entry by entry the two sides differ until all of `upper` is in; they are compared at the end.
  apply eq_of_find? id
  · exact nodup_byId (nodup_byId hl middle) upper
  · rw [ids_byId (nodup_byId hl middle), ids_byId hl, ids_byId hl, ids_byId hm,
      Grouping.eraseDups_eraseDups_append, List.append_assoc]
    have hright := Grouping.eraseDups_append_eraseDups (lower.map id)
      (middle.map id ++ upper.map id)
    rw [Grouping.eraseDups_of_nodup hl] at hright
    exact hright.symm
  · intro key
    rw [find?_byId_of_nodup _ hu, find?_byId_of_nodup _ hm,
      find?_byId_of_nodup _ (nodup_byId hm upper), find?_byId_of_nodup _ hu, Option.or_assoc]

theorem byId_self {entries : List α} (h : (entries.map id).Nodup) :
    byId id entries entries = entries := by
  apply eq_of_find? id
  · exact nodup_byId h entries
  · have hsame : (entries.map id).filter (fun key => key ∉ entries.map id) = [] := by
      simp
    rw [(over_byId h h).ids, hsame, List.append_nil]
  · intro key
    rw [find?_byId_of_nodup _ h, Option.or_self]

/-! ## Messages -/

theorem messages_concat (base upper : List String) (message : String) :
    messages base (upper ++ [message])
      = if message ∈ messages base upper then messages base upper
        else messages base upper ++ [message] := by
  simp [messages]

/-- Messages need not be distinct for it not to matter how they are grouped. -/
theorem messages_assoc (lower middle upper : List String) :
    messages (messages lower middle) upper = messages lower (messages middle upper) := by
  induction upper using List.reverseRecOn with
  | nil => rfl
  | append_singleton upper message ih =>
    rw [messages_concat, messages_concat, ih]
    by_cases hm : message ∈ messages middle upper
    · have hall : message ∈ messages lower (messages middle upper) := mem_messages.mpr (.inr hm)
      rw [if_pos hall, if_pos hm]
    · rw [if_neg hm, messages_concat]

theorem messages_of_subset {base upper : List String} (h : ∀ message ∈ upper, message ∈ base) :
    messages base upper = base := by
  induction upper with
  | nil => rfl
  | cons message upper ih =>
    have hm : base.contains message = true := by simpa using h message List.mem_cons_self
    rw [messages, List.foldl_cons, if_pos hm]
    exact ih fun other ho => h other (List.mem_cons_of_mem _ ho)

theorem messages_self (base : List String) : messages base base = base :=
  messages_of_subset fun _ h => h

end Merge

/-! ## Configurations -/

namespace Config

/-- Each id is defined once. -/
structure Distinct (config : Config) : Prop where
  rules : (config.rules.map (·.id)).Nodup
  links : (config.links.map (·.id)).Nodup

theorem Combines.distinct {files : List Config} {config : Config} (h : Combines files config) :
    config.Distinct := ⟨h.rules.nodup, h.links.nodup⟩

theorem Distinct.merge {base : Config} (h : base.Distinct) (upper : Config) :
    (base.merge upper).Distinct :=
  ⟨Merge.nodup_byId h.rules _, Merge.nodup_byId h.links _⟩

theorem merge_assoc {lower middle upper : Config} (hl : lower.Distinct) (hm : middle.Distinct)
    (hu : upper.Distinct) :
    (lower.merge middle).merge upper = lower.merge (middle.merge upper) := by
  unfold Config.merge
  simp only [Config.mk.injEq, Defaults.mk.injEq, SuppressionConfig.mk.injEq, true_and]
  refine ⟨⟨?_, ?_⟩, ?_, ?_, ?_⟩
  · rw [Option.or_assoc]
  · rw [Option.or_assoc]
  · exact Merge.byId_assoc hl.rules hm.rules hu.rules
  · exact Merge.byId_assoc hl.links hm.links hu.links
  · exact Merge.messages_assoc _ _ _

/-- What a configuration includes is lost when it is merged, even with itself. -/
theorem merge_self {config : Config} (h : config.Distinct) :
    config.merge config = { config with includes := [] } := by
  unfold Config.merge
  rw [Merge.byId_self h.rules, Merge.byId_self h.links, Merge.messages_self, Option.or_self,
    Option.or_self]

/-- **Merging.** Grouping does not matter, and merging a configuration with itself, or once more
with what it was merged into, changes nothing. A merged configuration defines each id once: those
of the lower one in their places, then the new ones, each as the upper one defines it if it does. -/
theorem merge_laws {lower middle upper : Config} (hl : lower.Distinct) (hm : middle.Distinct)
    (hu : upper.Distinct) :
    (lower.merge middle).merge upper = lower.merge (middle.merge upper) ∧
      lower.merge lower = { lower with includes := [] } ∧
      lower.merge (lower.merge middle) = lower.merge middle ∧
      Merge.Over (·.id) lower.rules middle.rules (lower.merge middle).rules ∧
      Merge.Over (·.id) lower.links middle.links (lower.merge middle).links := by
  refine ⟨merge_assoc hl hm hu, merge_self hl, ?_, Merge.over_byId hl.rules hm.rules,
    Merge.over_byId hl.links hm.links⟩
  rw [← merge_assoc hl hl hm, merge_self hl]
  rfl

/-- A file that includes another one and repeats a message. -/
def ground : Config where
  includes := ["shared.toml"]
  rules := [{ id := "alt", help := some "Alternate text" }, { id := "label" }]
  links := [{ id := "HANDBOOK", text := "Handbook", href := "https://old.example" }]
  suppression := { messages := ["noise", "noise"] }

/-- A file that replaces a rule and adds one in front of it. -/
def overGround : Config where
  rules := [{ id := "list" }, { id := "alt", howToCheck := true }]
  suppression := { messages := ["other", "noise"] }

/-- A file that replaces a link and a rule that was added. -/
def onTop : Config where
  defaults := { title := some "Top" }
  rules := [{ id := "list", bestPractice := true }]
  links := [{ id := "HANDBOOK", text := "Handbook", href := "https://new.example" }]

theorem merge_laws_ground :
    (ground.Distinct ∧ overGround.Distinct ∧ onTop.Distinct) ∧
      (ground.merge overGround).merge onTop = ground.merge (overGround.merge onTop) ∧
      ground.merge ground = { ground with includes := [] } ∧
      ground.merge (ground.merge overGround) = ground.merge overGround ∧
      (ground.merge overGround).rules.map (·.id) = ["alt", "label", "list"] ∧
      { id := "alt", howToCheck := true } ∈ (ground.merge overGround).rules := by
  have hg : ground.Distinct := ⟨by decide, by decide⟩
  have ho : overGround.Distinct := ⟨by decide, by decide⟩
  have ht : onTop.Distinct := ⟨by decide, by decide⟩
  obtain ⟨hassoc, hself, hagain, hrules, -⟩ := merge_laws hg ho ht
  exact ⟨⟨hg, ho, ht⟩, hassoc, hself, hagain, hrules.ids.trans (by decide),
    hrules.wins _ (by decide)⟩

end Config
end AccessReport
