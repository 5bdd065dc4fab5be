import AccessReport.Proofs.Files.Growth
import AccessReport.Tasks.Process
/-!
# What programs leave

A script prints at the end of what was printed, and writes files; it takes no directory away and
makes none. One command does so, and with it every step of a script, every script, and every program
that is run by its name.

* `Script.extends_step`: what one step of a script does.
* `Script.extends_run`: what a script does from any point on.
* `Workshop.keeps_run`: what a program leaves of the files.
-/
namespace AccessReport

namespace Script

/-- Nothing is taken back: what was printed stays printed, and directories stay directories. -/
structure Extends (before after : Progress) : Prop where
  printed : before.stdout.toList <+: after.stdout.toList
  kept : before.tree.Keeps after.tree

namespace Extends

variable {before middle after : Progress}

theorem refl (progress : Progress) : Extends progress progress :=
  ⟨List.prefix_rfl, .refl progress.tree⟩

theorem trans (h : Extends before middle) (h' : Extends middle after) : Extends before after :=
  ⟨h.printed.trans h'.printed, h.kept.trans h'.kept⟩

/-- Nothing but the code of the last command is another one. -/
theorem of_same (htree : after.tree = before.tree) (hstdout : after.stdout = before.stdout) :
    Extends before after :=
  ⟨hstdout ▸ List.prefix_rfl, htree ▸ .refl before.tree⟩

end Extends

theorem extends_printTo (progress : Progress) (path text : String) (append : Bool) :
    Extends progress (printTo progress path text append) := by
  unfold printTo
  split
  · exact .of_same rfl rfl
  · dsimp only
    split
    · rename_i tree hwrite
      obtain ⟨location, hfree, -, rfl⟩ := FileTree.write_ok hwrite
      exact ⟨List.prefix_rfl, .put _ hfree⟩
    · exact .of_same rfl rfl

theorem extends_command (progress : Progress) (values : List String)
    (target : Option (String × Bool)) : Extends progress (command progress values target) := by
  unfold command
  split
  · dsimp only
    split
    · exact extends_printTo ..
    · exact ⟨by simp, .refl progress.tree⟩
  all_goals exact .of_same rfl rfl

theorem extends_step (arguments : List String) (progress : Progress) (words : List Word) :
    Extends progress (step arguments progress words).1 := by
  unfold step
  split
  case h_12 => exact extends_command ..
  all_goals exact .of_same rfl rfl

theorem extends_run (arguments : List String) (progress : Progress) (words : List Word) :
    Extends progress (run arguments progress words) := by
  fun_induction run arguments progress words with
  | case1 progress words h => exact .refl progress
  | case2 progress words h ih => exact (extends_step arguments progress words).trans ih

theorem extends_ofText (text : String) (arguments : List String) (tree : FileTree) :
    Extends { tree } (ofText text arguments tree) :=
  extends_run arguments { tree } (words text.toList)

end Script

namespace Workshop

variable {shop : Workshop} {path name : String} {arguments : List String} {ended : Ended}

theorem keeps_runSystem (shop : Workshop) (name : String) (arguments : List String) :
    shop.tree.Keeps (shop.runSystem name arguments).tree := by
  unfold runSystem
  split
  · exact (Script.extends_ofText ..).kept
  · exact .refl shop.tree
  · exact (Script.extends_command { tree := shop.tree } ..).kept

theorem keeps_runAt (h : shop.runAt path arguments = .ok ended) : shop.tree.Keeps ended.tree := by
  unfold runAt at h
  split at h
  · rw [← Except.ok.inj h]
    exact keeps_runSystem ..
  · obtain ⟨location, -, h⟩ := bind_eq_ok.mp h
    dsimp only at h
    split at h
    · rw [pure_bind] at h
      split at h
      · cases h
      · split at h
        · cases h
          exact (Script.extends_ofText ..).kept
        · cases h
    · cases h
    · cases h

theorem keeps_runIn {fault : FileFault} {directories : List String}
    (h : shop.runIn name arguments fault directories = .ok ended) : shop.tree.Keeps ended.tree := by
  induction directories generalizing fault with
  | nil => cases h
  | cons directory rest ih =>
    unfold runIn at h
    dsimp only at h
    split at h
    · exact ih h
    · exact ih h
    · exact ih h
    · exact keeps_runAt h

/-- **Programs.** However a program ends, the directories that were there are there. -/
theorem keeps_run (h : shop.run name arguments = .ok ended) : shop.tree.Keeps ended.tree := by
  unfold run at h
  split at h
  · cases h
  · split at h
    · exact keeps_runAt h
    · split at h
      · cases h
      · exact keeps_runIn h

end Workshop
end AccessReport
