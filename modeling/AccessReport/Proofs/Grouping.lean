import Mathlib.Data.List.Induction
/-!
# Distinct keys and the items under each

Walking over items from left to right gives every key once, in the order in which the keys first
appear. Collecting the items under each key only rearranges them.

* `nodup_eraseDups`, `eraseDups_of_nodup`: no key is repeated, and without repetitions nothing is
  left out.
* `eraseDups_concat`: one more item at the end of the walk.
* `eraseDups_append_eraseDups`: two walks, one after the other.
* `lookup_cons_eq`: looking up a key in one more entry.
* `lookup_perm`: looking up a key in entries of distinct keys, whatever their order is.
* `flatMap_filter_perm`: the items under distinct keys that cover them all are all the items.
-/
namespace AccessReport.Grouping

variable {α κ : Type} [DecidableEq κ]

theorem nodup_eraseDups : ∀ keys : List κ, keys.eraseDups.Nodup
  | [] => by simp
  | key :: keys => by
    rw [List.eraseDups_cons, List.nodup_cons]
    refine ⟨?_, nodup_eraseDups _⟩
    rw [List.mem_eraseDups]
    simp
termination_by keys => keys.length
decreasing_by
  exact Nat.lt_succ_of_le (List.length_filter_le ..)

theorem eraseDups_of_nodup {keys : List κ} (h : keys.Nodup) : keys.eraseDups = keys := by
  induction keys with
  | nil => rfl
  | cons key keys ih =>
    rw [List.nodup_cons] at h
    have hf : keys.filter (fun other => !other == key) = keys := by
      rw [List.filter_eq_self]
      intro other ho
      have hne : other ≠ key := fun he => h.1 (he ▸ ho)
      simpa using hne
    rw [List.eraseDups_cons, hf, ih h.2]

theorem eraseDups_concat (keys : List κ) (key : κ) :
    (keys ++ [key]).eraseDups
      = if key ∈ keys then keys.eraseDups else keys.eraseDups ++ [key] := by
  rw [List.eraseDups_append]
  split
  · rename_i h
    simp [List.removeAll, h]
  · rename_i h
    simp [List.removeAll, h, List.eraseDups_cons]

theorem getElem?_concat_eq_some_iff {items : List α} {item other : α} {k : Nat} :
    (items ++ [item])[k]? = some other ↔
      items[k]? = some other ∨ k = items.length ∧ item = other := by
  rcases Nat.lt_trichotomy k items.length with hk | rfl | hk
  · rw [List.getElem?_append_left hk]
    simp [Nat.ne_of_lt hk]
  · simp
  · have hlength : (items ++ [item]).length ≤ k := by
      rw [List.length_append]
      exact hk
    rw [List.getElem?_eq_none hlength, List.getElem?_eq_none (Nat.le_of_lt hk)]
    simp [Nat.ne_of_gt hk]

theorem modify_concat_length (items : List α) (item : α) (change : α → α) :
    (items ++ [item]).modify items.length change = items ++ [change item] := by
  induction items with
  | nil => rfl
  | cons first rest ih => rw [List.cons_append, List.length_cons, List.modify_succ_cons, ih]; rfl

theorem eraseDups_eraseDups_append (keys more : List κ) :
    (keys.eraseDups ++ more).eraseDups = (keys ++ more).eraseDups := by
  have hsame : more.removeAll keys.eraseDups = more.removeAll keys := by
    unfold List.removeAll
    refine List.filter_congr fun key _ => ?_
    rw [List.elem_eq_contains, List.elem_eq_contains, List.contains_eq_mem, List.contains_eq_mem]
    simp only [List.mem_eraseDups]
  rw [List.eraseDups_append, List.eraseDups_append, eraseDups_of_nodup (nodup_eraseDups keys),
    hsame]

/-- What each of two walks gives, walked again, is what both give together. -/
theorem eraseDups_append_eraseDups (keys more : List κ) :
    (keys.eraseDups ++ more.eraseDups).eraseDups = (keys ++ more).eraseDups := by
  rw [eraseDups_eraseDups_append]
  induction more using List.reverseRecOn with
  | nil => simp
  | append_singleton more key ih =>
    rw [eraseDups_concat more key, ← List.append_assoc, eraseDups_concat (keys ++ more) key]
    by_cases hm : key ∈ more
    · rw [if_pos hm, if_pos (List.mem_append_right keys hm), ih]
    · rw [if_neg hm, ← List.append_assoc, eraseDups_concat, ih]
      simp only [List.mem_append, List.mem_eraseDups]

theorem lookup_cons_eq {β : Type} (entry : κ × β) (rest : List (κ × β)) (key : κ) :
    (entry :: rest).lookup key = if key = entry.1 then some entry.2 else rest.lookup key := by
  obtain ⟨first, held⟩ := entry
  by_cases hk : key = first
  · simp [hk]
  · have hne : (key == first) = false := beq_eq_false_iff_ne.mpr hk
    rw [List.lookup_cons, hne, if_neg hk]

theorem isSome_lookup_iff {β : Type} (entries : List (κ × β)) (key : κ) :
    (entries.lookup key).isSome = true ↔ key ∈ entries.map (·.1) := by
  rw [List.lookup_isSome_iff, List.mem_map]
  simp only [beq_iff_eq, eq_comm (a := key)]

theorem mem_of_lookup {β : Type} {entries : List (κ × β)} {key : κ} {held : β}
    (h : entries.lookup key = some held) : (key, held) ∈ entries := by
  obtain ⟨before, after, rfl, -⟩ := List.lookup_eq_some_iff.mp h
  exact List.mem_append_right before List.mem_cons_self

theorem lookup_of_notMem {β : Type} {entries : List (κ × β)} {key : κ}
    (h : key ∉ entries.map (·.1)) : entries.lookup key = none := by
  rw [List.lookup_eq_none_iff]
  intro entry hm
  have hne : key ≠ entry.1 := fun he => h (he ▸ List.mem_map_of_mem hm)
  simpa using hne

theorem lookup_eq_some_iff {β : Type} {entries : List (κ × β)} (h : (entries.map (·.1)).Nodup)
    {key : κ} {held : β} : entries.lookup key = some held ↔ (key, held) ∈ entries := by
  induction entries with
  | nil => simp
  | cons entry entries ih =>
    obtain ⟨first, other⟩ := entry
    rw [List.map_cons, List.nodup_cons] at h
    rw [lookup_cons_eq, List.mem_cons, Prod.mk.injEq]
    by_cases hk : key = first
    · subst hk
      have hrest : (key, held) ∉ entries := fun hm => h.1 (List.mem_map.mpr ⟨_, hm, rfl⟩)
      rw [if_pos rfl, Option.some.injEq, eq_comm]
      simp only [hrest, true_and, or_false]
    · rw [if_neg hk, ih h.2]
      simp only [hk, false_and, false_or]

theorem lookup_perm {β : Type} {entries others : List (κ × β)} (h : entries.Perm others)
    (hn : (entries.map (·.1)).Nodup) (key : κ) : entries.lookup key = others.lookup key := by
  have hothers : (others.map (·.1)).Nodup := (h.map (·.1)).nodup_iff.mp hn
  ext held
  rw [lookup_eq_some_iff hn, lookup_eq_some_iff hothers, h.mem_iff]

/-- Keys that cover the items split them: the items with the first key, and all others, which the
other keys cover. -/
theorem flatMap_filter_perm (key : α → κ) (keys : List κ) (hn : keys.Nodup) (items : List α)
    (hc : ∀ item ∈ items, key item ∈ keys) :
    (keys.flatMap fun k => items.filter fun item => decide (key item = k)).Perm items := by
  induction keys generalizing items with
  | nil =>
    have hi : items = [] := List.eq_nil_iff_forall_not_mem.mpr fun item hm => by
      simpa using hc item hm
    rw [hi, List.flatMap_nil]
  | cons first keys ih =>
    rw [List.nodup_cons] at hn
    have hrest : ∀ item ∈ items.filter (fun item => !decide (key item = first)),
        key item ∈ keys := by
      intro item hm
      rw [List.mem_filter] at hm
      have hne : key item ≠ first := by simpa using hm.2
      exact (List.mem_cons.mp (hc item hm.1)).resolve_left hne
    have same : (keys.flatMap fun k => items.filter fun item => decide (key item = k))
        = keys.flatMap fun k => (items.filter fun item => !decide (key item = first)).filter
            fun item => decide (key item = k) := by
      rw [List.flatMap_def, List.flatMap_def]
      congr 1
      refine List.map_congr_left fun k hk => ?_
      rw [List.filter_filter]
      refine List.filter_congr fun item _ => ?_
      have hne : key item = k → key item ≠ first := fun he hf => hn.1 (hf ▸ he ▸ hk)
      by_cases he : key item = k
      · simp [he, he ▸ hne he]
      · simp [he]
    rw [List.flatMap_cons, same]
    exact ((ih hn.2 _ hrest).append_left _).trans
      (List.filter_append_perm (fun item => decide (key item = first)) items)

end AccessReport.Grouping
