import Mathlib.Data.List.Basic
/-!
# Thinned lists

Going through a list, some items are taken out and the others are kept, changed or as they are.
`Thinned goes stays` relates the list before to the list after: `goes` says which items may be
taken out, `stays` what may become of one that is kept. The items that are kept stay in order.

* `thinned_filterMap`, `thinned_filter`: the library's loops thin a list.
-/
namespace AccessReport

inductive Thinned {α β : Type} (goes : α → Prop) (stays : α → β → Prop) :
    List α → List β → Prop where
  | nil : Thinned goes stays [] []
  | drop {item : α} {items : List α} {left : List β} (h : goes item)
    (rest : Thinned goes stays items left) : Thinned goes stays (item :: items) left
  | keep {item : α} {kept : β} {items : List α} {left : List β} (h : stays item kept)
    (rest : Thinned goes stays items left) : Thinned goes stays (item :: items) (kept :: left)

variable {α β : Type}

theorem thinned_filterMap {goes : α → Prop} {stays : α → β → Prop} {change : α → Option β}
    (hgoes : ∀ item, change item = none → goes item)
    (hstays : ∀ item kept, change item = some kept → stays item kept) (items : List α) :
    Thinned goes stays items (items.filterMap change) := by
  induction items with
  | nil => exact .nil
  | cons item items ih =>
    rw [List.filterMap_cons]
    split
    · rename_i hnone
      exact .drop (hgoes item hnone) ih
    · rename_i kept hkept
      exact .keep (hstays item kept hkept) ih

/-- Filtering takes out what fails the test and changes nothing. -/
theorem thinned_filter (test : α → Bool) (items : List α) :
    Thinned (test · = false) (fun item kept => kept = item ∧ test item = true) items
      (items.filter test) := by
  rw [← List.filterMap_eq_filter]
  refine thinned_filterMap (fun item h => ?_) (fun item kept h => ?_) items
  · simpa [Option.guard] using h
  · obtain ⟨rfl, htest⟩ := Option.guard_eq_some_iff.mp h
    exact ⟨rfl, htest⟩

end AccessReport
