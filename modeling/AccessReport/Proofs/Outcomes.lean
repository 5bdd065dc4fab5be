import Mathlib.Data.List.Forall2
import AccessReport.Surroundings.Inquiry
/-!
# Outcomes

What computations that may fail come to, one after the other and in loops over lists.

* `bind_eq_ok`, `refuse_eq_ok`: when one step goes well.
* `bind_eq_error`, `refuse_eq_error`: when it does not.
* `foldlM_gather_ok_iff`: what a loop accepts that gathers entries with distinct keys, and what it
  holds at the end.
* `foldlM_join_ok_iff`, `mapM_ok_iff`: the same for a loop that joins a part for each item.
* `foldlM_error`, `mapM_error`: a loop that fails has failed at one of its items;
  `mapM_error_iff` says at which.
* `exists_of_forall₂`, `find?_forall₂`, `map_eq_of_forall₂`: two lists whose items belong together
  pairwise.
* `outcome_mapError`, `outcome_tellAll`, `outcome_foldlM`, `outcome_mapM`: what inquiries come to.
-/
namespace AccessReport

/-! ## Single steps -/

theorem bind_eq_ok {ε α β : Type} {first : Except ε α} {next : α → Except ε β} {value : β} :
    first >>= next = .ok value ↔ ∃ middle, first = .ok middle ∧ next middle = .ok value := by
  cases first <;> simp [bind, Except.bind]

theorem bind_eq_error {ε α β : Type} {first : Except ε α} {next : α → Except ε β} {error : ε} :
    first >>= next = .error error ↔
      first = .error error ∨ ∃ middle, first = .ok middle ∧ next middle = .error error := by
  cases first <;> simp [bind, Except.bind]

theorem ok_bind {ε α β : Type} (value : α) (next : α → Except ε β) :
    (Except.ok value >>= next) = next value := rfl

theorem toOption_eq_some {ε α : Type} {outcome : Except ε α} {value : α} :
    outcome.toOption = some value ↔ outcome = .ok value := by
  cases outcome <;> simp [Except.toOption]

theorem mapError_eq_ok {ε ε' α : Type} {change : ε → ε'} {outcome : Except ε α} {value : α} :
    outcome.mapError change = .ok value ↔ outcome = .ok value := by
  cases outcome <;> simp [Except.mapError]

/-- A value that is refused under a condition. -/
theorem refuse_eq_ok {ε α : Type} {refused : Bool} {error : ε} {value result : α} :
    (do
      if refused then throw error
      pure value : Except ε α) = .ok result ↔ refused = false ∧ value = result := by
  cases refused <;> simp [pure, Except.pure, bind, Except.bind, throw, throwThe,
    MonadExceptOf.throw]

theorem refuse_eq_error {ε α : Type} {refused : Bool} {error result : ε} {value : α} :
    (do
      if refused then throw error
      pure value : Except ε α) = .error result ↔ refused = true ∧ error = result := by
  cases refused <;> simp [pure, Except.pure, bind, Except.bind, throw, throwThe,
    MonadExceptOf.throw]

/-! ## Loops -/

section
variable {ε α β : Type} {made : α → β → Prop} {key : β → String}
  {step : List β → α → Except ε (List β)}

/-- A loop that makes an entry of each item and refuses a key that is held already. -/
theorem foldlM_gather_ok_iff
    (hstep : ∀ held item next, step held item = .ok next ↔
      ∃ entry, made item entry ∧ key entry ∉ held.map key ∧ next = held ++ [entry])
    (items : List α) (held all : List β) :
    items.foldlM step held = .ok all ↔
      ∃ entries, List.Forall₂ made items entries ∧ (entries.map key).Nodup ∧
        (∀ entry ∈ entries, key entry ∉ held.map key) ∧ all = held ++ entries := by
  induction items generalizing held with
  | nil =>
    constructor
    · intro h
      cases h
      exact ⟨[], .nil, by simp, by simp, by simp⟩
    · rintro ⟨entries, hf, -, -, rfl⟩
      cases hf
      simp [pure, Except.pure]
  | cons item items ih =>
    rw [List.foldlM_cons]
    constructor
    · intro h
      cases hs : step held item with
      | error error => rw [hs] at h; cases h
      | ok next =>
        rw [hs] at h
        obtain ⟨entry, hm, hk, rfl⟩ := (hstep held item next).mp hs
        obtain ⟨entries, hf, hn, hd, rfl⟩ := (ih (held ++ [entry])).mp h
        refine ⟨entry :: entries, .cons hm hf, ?_, ?_, by simp⟩
        · rw [List.map_cons, List.nodup_cons]
          refine ⟨?_, hn⟩
          rw [List.mem_map]
          rintro ⟨other, ho, he⟩
          exact hd other ho (by simp [he])
        · intro other ho
          rcases List.mem_cons.mp ho with rfl | ho
          · exact hk
          · intro hc
            exact hd other ho (by rw [List.map_append]; exact List.mem_append_left _ hc)
    · rintro ⟨entries, hf, hn, hd, rfl⟩
      cases hf with
      | @cons _ entry _ entries hm hf =>
        rw [List.map_cons, List.nodup_cons] at hn
        have hk := hd entry List.mem_cons_self
        rw [(hstep held item (held ++ [entry])).mpr ⟨entry, hm, hk, rfl⟩]
        refine (ih (held ++ [entry])).mpr ⟨entries, hf, hn.2, ?_, by simp⟩
        intro other ho hc
        rw [List.map_append, List.mem_append] at hc
        rcases hc with hc | hc
        · exact hd other (List.mem_cons_of_mem _ ho) hc
        · rw [List.map_singleton, List.mem_singleton] at hc
          exact hn.1 (hc ▸ List.mem_map_of_mem ho)

/-- The same loop from the start. -/
theorem foldlM_gather_nil_ok_iff
    (hstep : ∀ held item next, step held item = .ok next ↔
      ∃ entry, made item entry ∧ key entry ∉ held.map key ∧ next = held ++ [entry])
    (items : List α) (all : List β) :
    items.foldlM step [] = .ok all ↔ List.Forall₂ made items all ∧ (all.map key).Nodup := by
  rw [foldlM_gather_ok_iff hstep]
  constructor
  · rintro ⟨entries, hf, hn, -, rfl⟩
    exact ⟨hf, hn⟩
  · rintro ⟨hf, hn⟩
    exact ⟨all, hf, hn, by simp, rfl⟩

end

/-- A loop that joins a part for each item to what it has. -/
theorem foldlM_join_ok_iff {ε α β γ : Type} {made : α → γ → Prop} {join : β → γ → β}
    {step : β → α → Except ε β}
    (hstep : ∀ held item next, step held item = .ok next ↔
      ∃ part, made item part ∧ next = join held part)
    (items : List α) (held all : β) :
    items.foldlM step held = .ok all ↔
      ∃ parts, List.Forall₂ made items parts ∧ all = parts.foldl join held := by
  induction items generalizing held with
  | nil =>
    rw [List.foldlM_nil]
    constructor
    · intro h
      cases h
      exact ⟨[], .nil, rfl⟩
    · rintro ⟨parts, hf, rfl⟩
      cases hf
      rfl
  | cons item items ih =>
    rw [List.foldlM_cons, bind_eq_ok]
    constructor
    · rintro ⟨next, hs, h⟩
      obtain ⟨part, hm, rfl⟩ := (hstep held item next).mp hs
      obtain ⟨parts, hf, rfl⟩ := (ih (join held part)).mp h
      exact ⟨part :: parts, .cons hm hf, rfl⟩
    · rintro ⟨parts, hf, rfl⟩
      cases hf with
      | @cons _ part _ parts hm hf =>
        exact ⟨join held part, (hstep held item _).mpr ⟨part, hm, rfl⟩,
          (ih (join held part)).mpr ⟨parts, hf, rfl⟩⟩

theorem mapM_ok_iff {ε α β : Type} {step : α → Except ε β} {items : List α} {parts : List β} :
    items.mapM step = .ok parts ↔ List.Forall₂ (fun item part => step item = .ok part) items parts
    := by
  induction items generalizing parts with
  | nil =>
    rw [List.mapM_nil]
    constructor
    · intro h
      cases h
      exact .nil
    · rintro ⟨⟩
      rfl
  | cons item items ih =>
    rw [List.mapM_cons, bind_eq_ok]
    constructor
    · rintro ⟨part, hp, h⟩
      obtain ⟨rest, hr, h⟩ := bind_eq_ok.mp h
      cases h
      exact .cons hp (ih.mp hr)
    · intro h
      cases h with
      | @cons _ part _ rest hp hr => exact ⟨part, hp, bind_eq_ok.mpr ⟨rest, ih.mpr hr, rfl⟩⟩

theorem foldlM_error {ε α β : Type} {step : β → α → Except ε β} {items : List α} {start : β}
    {error : ε} (h : items.foldlM step start = .error error) :
    ∃ item ∈ items, ∃ held, step held item = .error error := by
  induction items generalizing start with
  | nil => cases h
  | cons item items ih =>
    rw [List.foldlM_cons] at h
    rcases bind_eq_error.mp h with h | ⟨next, -, h⟩
    · exact ⟨item, List.mem_cons_self, start, h⟩
    · obtain ⟨other, ho, hother⟩ := ih h
      exact ⟨other, List.mem_cons_of_mem _ ho, hother⟩

/-- A loop that makes a part for each item fails at the first item that does. -/
theorem mapM_error_iff {ε α β : Type} {step : α → Except ε β} {items : List α} {error : ε} :
    items.mapM step = .error error ↔ ∃ before item after, items = before ++ item :: after ∧
      (∀ earlier ∈ before, ∃ part, step earlier = .ok part) ∧ step item = .error error := by
  induction items with
  | nil =>
    rw [List.mapM_nil]
    constructor
    · intro h
      cases h
    · rintro ⟨before, item, after, h, -⟩
      simp at h
  | cons item items ih =>
    rw [List.mapM_cons, bind_eq_error]
    constructor
    · rintro (h | ⟨part, hp, h⟩)
      · exact ⟨[], item, items, rfl, by simp, h⟩
      rcases bind_eq_error.mp h with h | ⟨rest, -, h⟩
      · obtain ⟨before, other, after, rfl, hb, ho⟩ := ih.mp h
        exact ⟨item :: before, other, after, rfl, List.forall_mem_cons.mpr ⟨⟨part, hp⟩, hb⟩, ho⟩
      · cases h
    · rintro ⟨before, other, after, h, hb, ho⟩
      cases before with
      | nil =>
        obtain ⟨rfl, rfl⟩ := List.cons_eq_cons.mp h
        exact .inl ho
      | cons first before =>
        obtain ⟨rfl, rfl⟩ := List.cons_eq_cons.mp h
        obtain ⟨⟨part, hp⟩, hb⟩ := List.forall_mem_cons.mp hb
        exact .inr ⟨part, hp, bind_eq_error.mpr (.inl (ih.mpr ⟨before, other, after, rfl, hb, ho⟩))⟩

theorem mapM_error {ε α β : Type} {step : α → Except ε β} {items : List α} {error : ε}
    (h : items.mapM step = .error error) : ∃ item ∈ items, step item = .error error := by
  obtain ⟨before, item, after, rfl, -, hitem⟩ := mapM_error_iff.mp h
  exact ⟨item, by simp, hitem⟩

/-! ## Side by side -/

theorem exists_forall₂_iff {α β : Type} {made : α → β → Prop} {items : List α} :
    (∃ parts, List.Forall₂ made items parts) ↔ ∀ item ∈ items, ∃ part, made item part := by
  induction items with
  | nil =>
    refine ⟨fun _ _ h => absurd h List.not_mem_nil, fun _ => ⟨[], .nil⟩⟩
  | cons item items ih =>
    rw [List.forall_mem_cons, ← ih]
    constructor
    · rintro ⟨parts, hf⟩
      cases hf with
      | @cons _ part _ parts hm hf => exact ⟨⟨part, hm⟩, parts, hf⟩
    · rintro ⟨⟨part, hm⟩, parts, hf⟩
      exact ⟨part :: parts, .cons hm hf⟩

theorem exists_of_forall₂ {α β : Type} {made : α → β → Prop} {items : List α} {parts : List β}
    (h : List.Forall₂ made items parts) {part : β} (hm : part ∈ parts) :
    ∃ item ∈ items, made item part := by
  induction h with
  | nil => cases hm
  | @cons item first items rest hmade hrest ih =>
    rcases List.mem_cons.mp hm with rfl | hm
    · exact ⟨item, List.mem_cons_self, hmade⟩
    · obtain ⟨other, ho, hother⟩ := ih hm
      exact ⟨other, List.mem_cons_of_mem _ ho, hother⟩

/-- Looking for an id side by side finds entries that belong together, or none in either list. -/
theorem find?_forall₂ {α β : Type} {made : α → β → Prop} {p : α → Bool} {q : β → Bool}
    (hkey : ∀ item entry, made item entry → p item = q entry) {items : List α} {entries : List β}
    (h : List.Forall₂ made items entries) :
    Option.Rel made (items.find? p) (entries.find? q) := by
  induction h with
  | nil => exact .none
  | cons hm hf ih =>
    rw [List.find?_cons, List.find?_cons, hkey _ _ hm]
    split
    · exact .some hm
    · exact ih

theorem map_eq_of_forall₂ {α β γ : Type} {made : α → β → Prop} {f : α → γ} {g : β → γ}
    (hkey : ∀ item entry, made item entry → f item = g entry) {items : List α} {entries : List β}
    (h : List.Forall₂ made items entries) : items.map f = entries.map g := by
  induction h with
  | nil => rfl
  | cons hm hf ih => rw [List.map_cons, List.map_cons, hkey _ _ hm, ih]

/-! ## Outcomes of inquiries -/

namespace Inquiry

variable {ε ε' α β : Type} {around : Surroundings}

theorem outcome_mapError (change : ε → ε') (inquiry : Inquiry ε α) :
    ((inquiry.mapError change).run around).outcome
      = (inquiry.run around).outcome.mapError change := by
  show ((inquiry.attempt >>= fun outcome => ofExcept (outcome.mapError change)).run
    around).outcome = _
  rw [run_bind, run_attempt, Traced.outcome_bind]
  simp only [run_ofExcept, Traced.outcome_ofExcept]
  rfl

theorem outcome_tellAll (events : List Event) :
    (((tellAll events : Inquiry ε Unit)).run around).outcome = .ok () := by
  induction events with
  | nil => rfl
  | cons event events ih => exact ih

theorem outcome_foldlM (step : β → α → Inquiry ε β) (items : List α) (start : β) :
    ((items.foldlM step start).run around).outcome
      = items.foldlM (fun held item => ((step held item).run around).outcome) start := by
  induction items generalizing start with
  | nil => rfl
  | cons item items ih =>
    rw [List.foldlM_cons, List.foldlM_cons, run_bind, Traced.outcome_bind]
    congr 1
    funext next
    exact ih next

theorem outcome_mapM (step : α → Inquiry ε β) (items : List α) :
    ((items.mapM step).run around).outcome
      = items.mapM fun item => ((step item).run around).outcome := by
  induction items with
  | nil => rfl
  | cons item items ih =>
    rw [List.mapM_cons, List.mapM_cons, run_bind, Traced.outcome_bind, ← ih]
    congr 1
    funext part
    rw [run_bind, Traced.outcome_bind]
    rfl

end Inquiry

end AccessReport
