import AccessReport.Config.Basic
/-!
# Merging configurations

A configuration laid over another: its rules and links take the place of those with the same id,
and new ones come behind; its defaults win where it sets them; suppressed messages add up. The
result has nothing left to include.

Results:
* `overlay_ids`: laying one entry over others keeps the order of the ids and adds a new id at the
  end.
-/
namespace AccessReport

namespace Merge

variable {α : Type}

/-- One entry laid over others: in the place of the first one with the same id, or at the end. -/
def overlay (id : α → String) (item : α) : List α → List α
  | [] => [item]
  | held :: rest => if id held = id item then item :: rest else held :: overlay id item rest

/-- Entries laid over others one after the other (`merge_by_id`). -/
def byId (id : α → String) (base upper : List α) : List α :=
  upper.foldl (fun merged item => overlay id item merged) base

/-- The messages of both, without those of the second that are there already. -/
def messages (base upper : List String) : List String :=
  upper.foldl (fun held message => if held.contains message then held else held ++ [message]) base

theorem overlay_ids (id : α → String) (item : α) (base : List α) :
    (overlay id item base).map id
      = if id item ∈ base.map id then base.map id else base.map id ++ [id item] := by
  induction base with
  | nil => simp [overlay]
  | cons held rest ih =>
    rw [overlay]
    split
    · rename_i h
      simp [h]
    · rename_i h
      have hne : id item ≠ id held := fun e => h e.symm
      rw [List.map_cons, ih]
      simp only [List.map_cons, List.mem_cons, hne, false_or]
      split <;> simp

end Merge

/-- A configuration with another one laid over it (`merge_configs`). -/
def Config.merge (base upper : Config) : Config where
  defaults := {
    title := upper.defaults.title.or base.defaults.title
    mode := upper.defaults.mode.or base.defaults.mode }
  rules := Merge.byId (·.id) base.rules upper.rules
  links := Merge.byId (·.id) base.links upper.links
  suppression := {
    messages := Merge.messages base.suppression.messages upper.suppression.messages }

end AccessReport
