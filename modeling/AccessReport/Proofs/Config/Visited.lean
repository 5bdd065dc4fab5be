import AccessReport.Config.Loading
/-!
# The files that are being loaded

The loader keeps its files in one set, which every load changes and restores. What is in the set
while a file is loaded is the chain of files that led to it, so that handing the chain down comes
to the same: `loadBehind` does so, and needs no set.

* `turns_foldlM`: a loop over steps that leave the set as it is leaves it as it is.
* `turns_loadFrom`: a load leaves the set as it was, and makes what is made behind the chain.
* `load_eq`: the whole load.
-/
namespace AccessReport.Loading

/-! ## Behind a chain -/

/-- The configuration of a file with all that it includes, behind a chain of files that led to it:
none of them may be met again. -/
def loadBehind : Nat → List String → String → Inquiry ConfigError Config
  | 0, _, path => Inquiry.fail (.tooDeep path)
  | levels + 1, chain, path => do
    match ← Inquiry.canonical path with
    | .error cause => Inquiry.fail (.unlocatable path cause)
    | .ok location =>
      if chain.contains location then Inquiry.fail (.circular path)
      else
        Inquiry.tell (.loadingFile path (maxDepth - levels))
        let config ← single path
        Inquiry.ofExcept (rejectRepeated path config)
        if config.includes.isEmpty then pure config
        else
          let included ← config.includes.foldlM (fun (merged : Config) written => do
            let full := Path.join (baseOf path) written
            Inquiry.tell (.resolvingInclude written (baseOf path))
            if ← Inquiry.exists? full then
              pure (merged.merge (← loadBehind levels (location :: chain) full))
            else Inquiry.fail (.includeMissing full written)) {}
          pure (included.merge config)

/-! ## With one set -/

section
variable {α β : Type} {before middle after : List String}

/-- A computation that makes of one set another, and otherwise is an inquiry. -/
def Turns (visiting : Visiting α) (before after : List String) (inquiry : Inquiry ConfigError α) :
    Prop :=
  visiting.run before = (fun value => (value, after)) <$> inquiry

theorem turns_ask (inquiry : Inquiry ConfigError α) :
    Turns (.ask inquiry) before before inquiry := by
  unfold Turns Visiting.ask
  rw [map_eq_pure_bind]
  rfl

theorem turns_pure (value : α) : Turns (pure value) before before (pure value) := rfl

theorem Turns.bind {visiting : Visiting α} {inquiry : Inquiry ConfigError α}
    (h : Turns visiting before middle inquiry) {next : α → Visiting β}
    {rest : α → Inquiry ConfigError β}
    (hnext : ∀ value, Turns (next value) middle after (rest value)) :
    Turns (visiting >>= next) before after (inquiry >>= rest) := by
  unfold Turns at h hnext ⊢
  rw [StateT.run_bind, h, bind_map_left, map_bind]
  simp only [hnext]

/-- A loop over steps that leave the set as it is leaves it as it is. -/
theorem turns_foldlM {step : β → α → Visiting β} {plain : β → α → Inquiry ConfigError β}
    (h : ∀ value item, Turns (step value item) before before (plain value item)) (items : List α)
    (value : β) : Turns (items.foldlM step value) before before (items.foldlM plain value) := by
  induction items generalizing value with
  | nil => exact turns_pure value
  | cons item items ih =>
    rw [List.foldlM_cons, List.foldlM_cons]
    exact (h value item).bind ih

end

section
variable {α : Type} {path location : String} {visited after : List String}
  {next : Unit → Visiting α} {inquiry : Inquiry ConfigError α}

/-- A file that is in the set was met on the way to itself. -/
theorem turns_enter_of_mem (h : visited.contains location = true) :
    Turns (Visiting.enter path location >>= next) visited after
      (Inquiry.fail (.circular path)) := by
  unfold Turns Visiting.enter
  simp only [StateT.run_bind, StateT.run_get, pure_bind, if_pos h]
  rfl

/-- Any other file is put in. -/
theorem turns_enter_of_not_mem (h : ¬ visited.contains location = true)
    (hnext : Turns (next ()) (location :: visited) after inquiry) :
    Turns (Visiting.enter path location >>= next) visited after inquiry := by
  unfold Turns Visiting.enter at *
  simp only [StateT.run_bind, StateT.run_get, pure_bind, if_neg h]
  exact hnext

/-- It is taken out when its includes are loaded: they have left the set as it was. -/
theorem turns_leave (value : α) :
    Turns (Visiting.leave location >>= fun _ => pure value) (location :: visited) visited
      (pure value) := by
  have herase : (location :: visited).erase location = visited := List.erase_cons_head ..
  unfold Turns Visiting.leave
  simp only [StateT.run_bind, StateT.run_modify, pure_bind, herase]
  rfl

end

/-- A load leaves the set as it was, and makes what is made behind the chain. -/
theorem turns_loadFrom (levels : Nat) (path : String) (visited : List String) :
    Turns (loadFrom levels path) visited visited (loadBehind levels visited path) := by
  induction levels generalizing path visited with
  | zero => exact turns_ask _
  | succ levels ih =>
    unfold loadFrom loadBehind
    refine (turns_ask _).bind fun found => ?_
    cases found with
    | error cause => exact turns_ask _
    | ok location =>
      dsimp only
      by_cases hc : visited.contains location = true
      · rw [if_pos hc]
        exact turns_enter_of_mem hc
      · rw [if_neg hc]
        refine turns_enter_of_not_mem hc ?_
        refine (turns_ask _).bind fun _ => (turns_ask _).bind fun config =>
          (turns_ask _).bind fun _ => ?_
        split
        · exact turns_leave config
        · refine (turns_foldlM (fun merged written => ?_) _ _).bind fun included =>
            turns_leave (included.merge config)
          refine (turns_ask _).bind fun _ => (turns_ask _).bind fun found => ?_
          split
          · exact (ih _ (location :: visited)).bind fun part => turns_pure (merged.merge part)
          · exact turns_ask _

/-- The whole load starts with an empty set, so with no chain. -/
theorem load_eq (path : String) : load path = loadBehind (maxDepth + 1) [] path := by
  have hrun := turns_loadFrom (maxDepth + 1) path []
  unfold Turns at hrun
  rw [load, StateT.run'_eq, hrun, Functor.map_map]
  exact id_map _

end AccessReport.Loading
