import AccessReport.Proofs.Tasks.Programs
import AccessReport.Proofs.Tasks.SchemaFiles
import AccessReport.Tasks.Line
/-!
# How tasks end

What a task does is made of few steps: to make a directory, to write a file, to run a program, to
print. None of them takes a directory away, so no task does, even if it fails on the way.

* `TaskM.Keeping`: what a task does to the files, step by step.
* `TaskEnd.keeps_ofLine`: every task leaves the directories that were there.
* `TaskEnd.checks_pass_iff`: when everything holds that has to hold before a change is handed in.
-/
namespace AccessReport

namespace TaskM

variable {α β : Type}

/-- However the task ends, directories stay directories. -/
def Keeping (task : TaskM α) : Prop :=
  ∀ site : Site, site.shop.tree.Keeps (task.endAt site).2.shop.tree

theorem Keeping.bind {first : TaskM α} {next : α → TaskM β} (h : Keeping first)
    (hnext : ∀ value, Keeping (next value)) : Keeping (first >>= next) := by
  intro site
  have hfirst := h site
  rw [endAt_bind]
  cases hend : first.endAt site with
  | mk outcome middle =>
    rw [hend] at hfirst
    cases outcome with
    | error error => exact hfirst
    | ok value => exact hfirst.trans (hnext value middle)

theorem Keeping.forM {step : α → TaskM Unit} (h : ∀ item, Keeping (step item)) (items : List α) :
    Keeping (items.forM step) := by
  induction items with
  | nil => exact fun site => .refl site.shop.tree
  | cons item items ih => exact (h item).bind fun _ => ih

theorem keeping_tree : Keeping tree := fun site => .refl site.shop.tree

theorem keeping_report (line : String) : Keeping (report line) := fun site => .refl site.shop.tree

theorem keeping_createDirs (directory : String) (error : FileFault → TaskError) :
    Keeping (createDirs directory error) := by
  intro site
  have hgrown := FileTree.createDirs_grown site.shop.tree directory
  rw [endAt_createDirs]
  cases hmade : site.shop.tree.createDirs directory with
  | ok made => exact (hmade ▸ hgrown).keeps
  | error halted => exact (hmade ▸ hgrown).keeps

theorem keeping_write (path text : String) (error : FileFault → TaskError) :
    Keeping (write path text error) := by
  intro site
  rw [endAt_write]
  cases hwritten : site.shop.tree.write path text with
  | error cause => exact .refl site.shop.tree
  | ok written =>
    obtain ⟨location, hfree, -, rfl⟩ := FileTree.write_ok hwritten
    exact .put _ hfree

theorem keeping_call (program : String) (arguments : List String) :
    Keeping (call program arguments) := by
  intro site
  rw [endAt_call]
  cases hrun : site.shop.run program arguments with
  | error cause => exact .refl site.shop.tree
  | ok ended => exact Workshop.keeps_run hrun

end TaskM

open TaskM

theorem SchemaFiles.keeping_writeOne (directory : String) (file : String × Schema) :
    Keeping (writeOne directory file) := by
  refine Keeping.bind ?_ fun _ => keeping_report _
  exact TaskM.keeping_write _ _ _

theorem SchemaFiles.keeping_write (directory : String) : Keeping (write directory) := by
  refine Keeping.bind ?_ fun _ => Keeping.forM (keeping_writeOne directory) all
  exact keeping_createDirs directory _

theorem SchemaFiles.keeping_check (directory : String) : Keeping (check directory) := by
  intro site
  rw [endAt_check]
  exact .refl site.shop.tree

theorem TaskLine.keeping_runChecks : Keeping runChecks := by
  refine (Keeping.forM (keeping_call "cargo") checkedCalls).bind fun _ =>
    keeping_tree.bind fun files => ?_
  split
  · exact SchemaFiles.keeping_check defaultDirectory
  · exact fun site => .refl site.shop.tree

theorem TaskLine.keeping_run (line : TaskLine) : Keeping line.run := by
  cases line with
  | checks => exact keeping_runChecks
  | writeSchemas directory => exact SchemaFiles.keeping_write directory
  | checkSchemas directory => exact SchemaFiles.keeping_check directory

namespace TaskEnd

/-- **Tasks.** However a task ends, the directories that were there are there. -/
theorem keeps_ofLine (line : TaskLine) (shop : Workshop) :
    shop.tree.Keeps (ofLine line shop).site.shop.tree := by
  have hkeeps := line.keeping_run { shop }
  unfold ofLine
  cases hend : line.run.endAt { shop } with
  | mk outcome site =>
    rw [hend] at hkeeps
    cases outcome <;> exact hkeeps

theorem exitCode_ofLine (line : TaskLine) (shop : Workshop) :
    (ofLine line shop).exitCode = 0 ↔ ∃ site, line.run.endAt { shop } = (.ok (), site) := by
  unfold ofLine
  cases line.run.endAt { shop } with
  | mk outcome site => cases outcome <;> simp

/-- **Checks.** A change can be handed in if the calls succeed one after the other, each of them in
the files that the one before it has left, and if the directory of the schemas, should there be one
in the end, holds all their files. -/
theorem checks_pass_iff (shop : Workshop) :
    (ofLine .checks shop).exitCode = 0 ↔ ∃ after,
      Runs (call "cargo") TaskLine.checkedCalls { shop } after ∧
        ((∃ location, after.shop.tree.locate TaskLine.defaultDirectory = .ok location) →
          SchemaFiles.Holds after.shop.tree TaskLine.defaultDirectory SchemaFiles.all) := by
  rw [exitCode_ofLine]
  show (∃ site, TaskLine.runChecks.endAt { shop } = (.ok (), site)) ↔ _
  unfold TaskLine.runChecks
  constructor
  · intro ⟨site, h⟩
    obtain ⟨_, after, hcalls, hrest⟩ := endAt_bind_ok_iff.mp h
    refine ⟨after, endAt_forM_ok_iff.mp hcalls, fun ⟨location, hlocation⟩ => ?_⟩
    rw [endAt_bind, endAt_tree] at hrest
    dsimp only at hrest
    rw [hlocation] at hrest
    exact (SchemaFiles.check_ok_iff.mp hrest).1
  · intro ⟨after, hcalls, hholds⟩
    refine ⟨after, endAt_bind_ok_iff.mpr ⟨(), after, endAt_forM_ok_iff.mpr hcalls, ?_⟩⟩
    rw [endAt_bind, endAt_tree]
    dsimp only
    cases hlocation : after.shop.tree.locate TaskLine.defaultDirectory with
    | error fault => rfl
    | ok location => exact SchemaFiles.check_ok_iff.mpr ⟨hholds ⟨location, hlocation⟩, rfl⟩

end TaskEnd
end AccessReport
