import AccessReport.Tasks.Basic
/-!
# Steps of tasks

A task goes on for as long as nothing fails. What it has done by then stays done: the site after a
failure is the one that the failing step has left.

* `endAt_bind`: one task after another.
* `endAt_forM_ok_iff`: a step for every item, if all of them succeed.
* `endAt_forM_error_iff`: a step for every item up to the first one that fails.
-/
namespace AccessReport.TaskM

variable {α β : Type} {site after : Site}

/-- One task after another, which a failure of the first one leaves out. -/
theorem endAt_bind (first : TaskM α) (next : α → TaskM β) (site : Site) :
    (first >>= next).endAt site = match first.endAt site with
      | (.ok value, middle) => (next value).endAt middle
      | (.error error, middle) => (.error error, middle) := by
  unfold endAt ExceptT.run
  simp only [bind, ExceptT.bind, ExceptT.mk, StateT.bind, ExceptT.bindCont]
  cases first site with
  | mk outcome middle => cases outcome <;> rfl

theorem endAt_bind_ok_iff {first : TaskM α} {next : α → TaskM β} {result : β} :
    (first >>= next).endAt site = (.ok result, after) ↔
      ∃ value middle, first.endAt site = (.ok value, middle)
        ∧ (next value).endAt middle = (.ok result, after) := by
  rw [endAt_bind]
  cases first.endAt site with
  | mk outcome middle => cases outcome <;> simp [and_assoc]

theorem endAt_bind_error_iff {first : TaskM α} {next : α → TaskM β} {error : TaskError} :
    (first >>= next).endAt site = (.error error, after) ↔
      first.endAt site = (.error error, after) ∨
        ∃ value middle, first.endAt site = (.ok value, middle)
          ∧ (next value).endAt middle = (.error error, after) := by
  rw [endAt_bind]
  cases first.endAt site with
  | mk outcome middle => cases outcome <;> simp [and_assoc]

@[simp] theorem endAt_pure (value : α) (site : Site) :
    (pure value : TaskM α).endAt site = (.ok value, site) := rfl

@[simp] theorem endAt_fail (error : TaskError) (site : Site) :
    (fail error : TaskM α).endAt site = (.error error, site) := rfl

@[simp] theorem endAt_get (site : Site) : (get : TaskM Site).endAt site = (.ok site, site) := rfl

@[simp] theorem endAt_tree (site : Site) : tree.endAt site = (.ok site.shop.tree, site) := rfl

/-- The site with other files. -/
def withTree (site : Site) (tree : FileTree) : Site :=
  { site with shop := { site.shop with tree } }

@[simp] theorem withTree_tree (site : Site) (tree : FileTree) :
    (withTree site tree).shop.tree = tree := rfl

@[simp] theorem endAt_report (line : String) (site : Site) :
    (report line).endAt site = (.ok (), { site with stderr := site.stderr ++ line ++ "\n" }) := rfl

theorem endAt_write (path text : String) (error : FileFault → TaskError) (site : Site) :
    (write path text error).endAt site = match site.shop.tree.write path text with
      | .ok written => (.ok (), withTree site written)
      | .error cause => (.error (error cause), site) := by
  unfold write
  rw [endAt_bind, endAt_tree]
  dsimp only
  cases site.shop.tree.write path text <;> rfl

theorem endAt_createDirs (directory : String) (error : FileFault → TaskError) (site : Site) :
    (createDirs directory error).endAt site = match site.shop.tree.createDirs directory with
      | .ok made => (.ok (), withTree site made)
      | .error halted => (.error (error halted.fault), withTree site halted.left) := by
  unfold createDirs
  rw [endAt_bind, endAt_tree]
  dsimp only
  cases site.shop.tree.createDirs directory <;> rfl

/-- The site when a program has ended. -/
def afterCall (site : Site) (ended : Workshop.Ended) : Site :=
  { withTree site ended.tree with stdout := site.stdout ++ ended.stdout }

theorem endAt_call (program : String) (arguments : List String) (site : Site) :
    (call program arguments).endAt site = match site.shop.run program arguments with
      | .error cause => (.error (.unrunnable program arguments cause), site)
      | .ok ended =>
        (if ended.code = 0 then .ok () else .error (.failed program arguments),
          afterCall site ended) := by
  unfold call
  rw [endAt_bind, endAt_get]
  dsimp only
  cases site.shop.run program arguments with
  | error cause => rfl
  | ok ended =>
    by_cases hcode : ended.code = 0
    · simp only [hcode, ne_eq, not_true, if_true, if_false]
      rfl
    · simp only [hcode, ne_eq, not_false_eq_true, if_true, if_false]
      rfl

/-! ## One step for each item -/

/-- The steps for the items succeed one after the other, from one site to another. -/
inductive Runs (step : α → TaskM Unit) : List α → Site → Site → Prop where
  | nil (site : Site) : Runs step [] site site
  | cons {item : α} {rest : List α} {site middle after : Site}
    (h : (step item).endAt site = (.ok (), middle)) (hrest : Runs step rest middle after) :
    Runs step (item :: rest) site after

variable {step : α → TaskM Unit} {items : List α}

theorem forM_cons (step : α → TaskM Unit) (item : α) (items : List α) :
    (item :: items).forM step = (step item >>= fun _ => items.forM step) := rfl

theorem endAt_forM_ok_iff :
    (items.forM step).endAt site = (.ok (), after) ↔ Runs step items site after := by
  induction items generalizing site with
  | nil =>
    constructor
    · intro h
      obtain rfl := (Prod.mk.inj h).2
      exact .nil site
    · intro h
      cases h
      rfl
  | cons item items ih =>
    rw [forM_cons, endAt_bind_ok_iff]
    constructor
    · intro ⟨_, middle, hitem, hrest⟩
      exact .cons hitem (ih.mp hrest)
    · intro h
      cases h with
      | cons hitem hrest => exact ⟨(), _, hitem, ih.mpr hrest⟩

theorem endAt_forM_error_iff {error : TaskError} :
    (items.forM step).endAt site = (.error error, after) ↔
      ∃ before item rest middle, items = before ++ item :: rest ∧ Runs step before site middle
        ∧ (step item).endAt middle = (.error error, after) := by
  induction items generalizing site with
  | nil =>
    constructor
    · intro h
      cases h
    · intro ⟨before, item, rest, _, heq, _⟩
      simp at heq
  | cons item items ih =>
    rw [forM_cons, endAt_bind_error_iff]
    constructor
    · intro h
      rcases h with hitem | ⟨_, middle, hitem, hrest⟩
      · exact ⟨[], item, items, site, rfl, .nil site, hitem⟩
      · obtain ⟨before, failing, rest, reached, rfl, hbefore, hfailing⟩ := ih.mp hrest
        exact ⟨item :: before, failing, rest, reached, rfl, .cons hitem hbefore, hfailing⟩
    · intro ⟨before, failing, rest, reached, heq, hbefore, hfailing⟩
      cases hbefore with
      | nil =>
        obtain ⟨rfl, rfl⟩ := List.cons.inj heq
        exact .inl hfailing
      | cons hitem hrest =>
        obtain ⟨rfl, rfl⟩ := List.cons.inj heq
        exact .inr ⟨(), _, hitem, ih.mpr ⟨_, failing, rest, reached, rfl, hrest, hfailing⟩⟩

end AccessReport.TaskM
