import AccessReport.Config.Merge
import AccessReport.Proofs.Grouping
/-!
# Configurations in layers

A merged configuration is compared with the files that went into it, lowest one first: its entries
stand in the order in which their ids first appear, each as the last file defines it.

* `ids_byId`, `find?_byId`: what is found in entries laid over others, and in which order.
* `Layered.byId`: layers over layers are layers.
* `Config.Combines.merge`: the same for configurations.
-/
namespace AccessReport

namespace Merge

variable {α : Type} {id : α → String}

/-! ## Entries over entries -/

theorem ids_overlay {base : List α} (h : (base.map id).Nodup) (item : α) :
    (overlay id item base).map id = (base.map id ++ [id item]).eraseDups := by
  rw [overlay_ids, Grouping.eraseDups_concat, Grouping.eraseDups_of_nodup h]

theorem find?_overlay (item : α) (base : List α) (key : String) :
    (overlay id item base).find? (id · == key)
      = if id item == key then some item else base.find? (id · == key) := by
  induction base with
  | nil =>
    rw [overlay, List.find?_cons, List.find?_nil]
    cases id item == key <;> rfl
  | cons held rest ih =>
    unfold overlay
    by_cases hh : id held = id item
    · rw [if_pos hh, List.find?_cons, List.find?_cons, hh]
      cases id item == key <;> rfl
    · rw [if_neg hh, List.find?_cons, List.find?_cons, ih]
      by_cases hk : id item = key
      · have hne : (id held == key) = false := beq_eq_false_iff_ne.mpr fun he =>
          hh (he.trans hk.symm)
        rw [hne, hk, beq_self_eq_true, if_pos rfl]
      · rw [beq_eq_false_iff_ne.mpr hk]
        rfl

theorem ids_byId {base : List α} (h : (base.map id).Nodup) (upper : List α) :
    (byId id base upper).map id = (base.map id ++ upper.map id).eraseDups := by
  induction upper generalizing base with
  | nil =>
    rw [List.map_nil, List.append_nil, Grouping.eraseDups_of_nodup h]
    rfl
  | cons item upper ih =>
    have hnext : ((overlay id item base).map id).Nodup := by
      rw [ids_overlay h]
      exact Grouping.nodup_eraseDups _
    have step := ih hnext
    rw [ids_overlay h, Grouping.eraseDups_eraseDups_append, List.append_assoc] at step
    exact step

/-- Of several entries with one id the last one is found. -/
theorem find?_byId (base upper : List α) (key : String) :
    (byId id base upper).find? (id · == key)
      = (upper.reverse.find? (id · == key)).or (base.find? (id · == key)) := by
  induction upper generalizing base with
  | nil => rfl
  | cons item upper ih =>
    have step := ih (overlay id item base)
    rw [find?_overlay] at step
    rw [List.reverse_cons, List.find?_append, Option.or_assoc, List.find?_singleton]
    refine step.trans ?_
    cases id item == key <;> rfl

/-- Where no id is repeated there is only one entry to find, from either end. -/
theorem find?_reverse {entries : List α} (h : (entries.map id).Nodup) (key : String) :
    entries.reverse.find? (id · == key) = entries.find? (id · == key) := by
  induction entries with
  | nil => rfl
  | cons entry rest ih =>
    rw [List.map_cons, List.nodup_cons] at h
    rw [List.reverse_cons, List.find?_append, ih h.2, List.find?_singleton, List.find?_cons]
    by_cases hk : id entry = key
    · have hnone : rest.find? (id · == key) = none := by
        rw [List.find?_eq_none]
        intro other ho he
        exact h.1 (hk.trans (beq_iff_eq.mp he).symm ▸ List.mem_map_of_mem ho)
      simp [hk, hnone]
    · have hne : (id entry == key) = false := beq_eq_false_iff_ne.mpr hk
      simp [hne]

/-! ## Layers -/

/-- Entries that layers, lowest first, make together: every id once, in the order in which ids
first appear, with the entry of the last layer that has one. -/
structure Layered (id : α → String) (layers : List (List α)) (entries : List α) : Prop where
  ids : entries.map id = (layers.flatten.map id).eraseDups
  last : ∀ key, entries.find? (id · == key)
    = layers.reverse.findSome? fun layer => layer.find? (id · == key)

namespace Layered

theorem nodup {layers : List (List α)} {entries : List α} (h : Layered id layers entries) :
    (entries.map id).Nodup := by
  rw [h.ids]
  exact Grouping.nodup_eraseDups _

theorem nil : Layered id [] ([] : List α) := ⟨rfl, fun _ => rfl⟩

theorem single {entries : List α} (h : (entries.map id).Nodup) :
    Layered id [entries] entries := by
  constructor
  · rw [List.flatten_singleton, Grouping.eraseDups_of_nodup h]
  · intro key
    rw [List.reverse_singleton, List.findSome?_singleton]

/-- Layers over layers are layers. -/
theorem byId {lower upper : List (List α)} {base above : List α} (hl : Layered id lower base)
    (hu : Layered id upper above) : Layered id (lower ++ upper) (byId id base above) := by
  constructor
  · rw [ids_byId hl.nodup, hl.ids, hu.ids, Grouping.eraseDups_append_eraseDups,
      List.flatten_append, List.map_append]
  · intro key
    rw [find?_byId, find?_reverse hu.nodup, hl.last, hu.last, List.reverse_append,
      List.findSome?_append]

end Layered

theorem mem_messages {base upper : List String} {message : String} :
    message ∈ messages base upper ↔ message ∈ base ∨ message ∈ upper := by
  unfold messages
  induction upper generalizing base with
  | nil => simp
  | cons first upper ih =>
    rw [List.foldl_cons, ih, List.mem_cons]
    by_cases hf : first ∈ base
    · have hc : base.contains first = true := by simpa using hf
      rw [if_pos hc]
      constructor
      · rintro (hb | hu)
        · exact .inl hb
        · exact .inr (.inr hu)
      · rintro (hb | rfl | hu)
        · exact .inl hb
        · exact .inl hf
        · exact .inr hu
    · have hc : ¬ base.contains first = true := by simpa using hf
      rw [if_neg hc, List.mem_append, List.mem_singleton, or_assoc]

end Merge

namespace Config

/-- A configuration is what files, lowest one first, make together. What it includes itself does
not matter here. -/
structure Combines (files : List Config) (config : Config) : Prop where
  title : config.defaults.title = files.reverse.findSome? (·.defaults.title)
  mode : config.defaults.mode = files.reverse.findSome? (·.defaults.mode)
  rules : Merge.Layered (·.id) (files.map (·.rules)) config.rules
  links : Merge.Layered (·.id) (files.map (·.links)) config.links
  messages : ∀ message, message ∈ config.suppression.messages ↔
    ∃ file ∈ files, message ∈ file.suppression.messages

namespace Combines

theorem nil : Combines [] {} :=
  ⟨rfl, rfl, .nil, .nil, by simp⟩

theorem single {config : Config} (hr : (config.rules.map (·.id)).Nodup)
    (hl : (config.links.map (·.id)).Nodup) : Combines [config] config where
  title := by rw [List.reverse_singleton, List.findSome?_singleton]
  mode := by rw [List.reverse_singleton, List.findSome?_singleton]
  rules := .single hr
  links := .single hl
  messages := by simp

/-- The files of the lower configuration come first. -/
theorem merge {lower upper : List Config} {base above : Config} (hl : Combines lower base)
    (hu : Combines upper above) : Combines (lower ++ upper) (base.merge above) where
  title := by
    rw [List.reverse_append, List.findSome?_append, ← hl.title, ← hu.title]
    rfl
  mode := by
    rw [List.reverse_append, List.findSome?_append, ← hl.mode, ← hu.mode]
    rfl
  rules := by
    rw [List.map_append]
    exact hl.rules.byId hu.rules
  links := by
    rw [List.map_append]
    exact hl.links.byId hu.links
  messages := by
    intro message
    refine Merge.mem_messages.trans ?_
    rw [hl.messages, hu.messages]
    simp only [List.mem_append, or_and_right, exists_or]

end Combines

end Config
end AccessReport
