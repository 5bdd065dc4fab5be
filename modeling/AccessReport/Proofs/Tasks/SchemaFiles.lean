import AccessReport.Proofs.Files.Growth
import AccessReport.Proofs.Tasks.Steps
import AccessReport.Tasks.SchemaFiles
/-!
# Schema files, written and checked

The check reads every file and changes nothing. Writing changes one file after the other, and none
of them takes the place of another one: their paths lead to places with different names. So what was
written first is still there in the end, and the check finds it.

* `FileTree.exists_of_locate_join`: a path that ends in a name leads to something of that name.
* `FileTree.read_of_write`: writing one file leaves the files with other names as they were.
* `SchemaFiles.endAt_check`: what the check comes to.
* `SchemaFiles.check_of_write`: the check succeeds where the files have been written.
* `SchemaFiles.write_error`: what is there if writing ends before all of them are.
-/
namespace AccessReport

/-! ## Files with names of their own -/

/-- A name that can only be that of a file or a directory. -/
structure Path.IsName (name : String) : Prop where
  named : name.isEmpty = false
  plain : '/' ∉ name.toList
  notPoint : FileTree.isPoint name.toList = false

theorem Path.components_join (base : String) {name : String} (h : IsName name) :
    ∃ above, components (join base name) = above ++ [name.toList] := by
  have hsplit : Text.splitAt '/' name.toList = [name.toList] := Text.splitAt_of_not_mem h.plain
  unfold components join
  split
  · exact ⟨[], hsplit⟩
  · split
    · rename_i hslash
      obtain ⟨before, hbefore⟩ := List.isSuffixOf_iff_suffix.mp hslash
      refine ⟨Text.splitAt '/' before, ?_⟩
      rw [String.toList_append, ← hbefore, List.append_assoc, List.singleton_append,
        Text.splitAt_append_separator, hsplit]
    · refine ⟨Text.splitAt '/' base.toList, ?_⟩
      rw [String.toList_append, String.toList_append, List.append_assoc]
      show Text.splitAt '/' (base.toList ++ '/' :: name.toList) = _
      rw [Text.splitAt_append_separator, hsplit]

namespace FileTree

variable {tree after : FileTree} {base name path text : String}

/-- A path that ends in a name leads to something of that name. -/
theorem exists_of_locate_join {location : List String} (hname : Path.IsName name)
    (h : tree.locate (Path.join base name) = .ok location) :
    ∃ directory, location = directory ++ [name] := by
  obtain ⟨-, hwalk, -⟩ := locate_ok_iff.mp h
  obtain ⟨above, hparts⟩ := Path.components_join base hname
  rw [hparts, walk_append_ok_iff] at hwalk
  obtain ⟨directory, -, hlast⟩ := hwalk
  obtain ⟨-, reached, hnext, hreached⟩ := walk_cons_ok_iff.mp hlast
  obtain rfl : reached = location := by simpa [walk] using hreached
  obtain ⟨hpoint, hpoints⟩ := Bool.or_eq_false_iff.mp hname.notPoint
  have hempty : name.toList.isEmpty = false := by simpa using hname.named
  refine ⟨directory, ?_⟩
  unfold next at hnext
  split at hnext
  · simp_all
  · split at hnext
    · simp_all
    · split at hnext
      · cases hnext
      · simpa [eq_comm] using hnext

theorem read_ok_iff : tree.read path = .ok text ↔
    ∃ location, tree.locate path = .ok location ∧ tree.find? location = some (.file text) := by
  constructor
  · intro h
    obtain ⟨location, hlocate, hread⟩ := bind_eq_ok.mp h
    refine ⟨location, hlocate, ?_⟩
    split at hread
    · rename_i hfile
      cases hread
      exact hfile
    · cases hread
    · cases hread
  · intro ⟨location, hlocate, hfile⟩
    exact read_of_locate hlocate hfile

/-- Writing one file leaves the files with other names as they were. -/
theorem read_of_write {other : String} {held : String} (hname : Path.IsName name)
    (hother : Path.IsName other) (hne : other ≠ name)
    (hwrite : tree.write (Path.join base name) text = .ok after)
    (hread : tree.read (Path.join base other) = .ok held) :
    after.read (Path.join base other) = .ok held := by
  obtain ⟨location, hfree, hlocate, rfl⟩ := write_ok hwrite
  obtain ⟨place, hplace, hheld⟩ := read_ok_iff.mp hread
  have hplaced := (Keeps.put (.file text) hfree).locate hplace
  obtain ⟨directory, rfl⟩ := exists_of_locate_join hname hlocate
  obtain ⟨folder, rfl⟩ := exists_of_locate_join hother hplace
  have hapart : folder ++ [other] ≠ directory ++ [name] := by
    intro heq
    exact hne (List.append_inj_right' heq rfl |> List.singleton_inj.mp)
  exact read_of_locate hplaced ((find?_put_other tree (.file text) hapart).trans hheld)

theorem read_written (hwrite : tree.write path text = .ok after) : after.read path = .ok text := by
  obtain ⟨location, -, hlocate, rfl⟩ := write_ok hwrite
  exact read_of_locate hlocate (find?_put ..)

end FileTree

namespace SchemaFiles

/-! ## The check -/

/-- The files in a directory hold what the schemas say. -/
def Holds (tree : FileTree) (directory : String) (files : List (String × Schema)) : Prop :=
  ∀ file ∈ files, tree.read (Path.join directory file.1) = .ok (textOf file.2)

theorem stale_eq_nil_iff (tree : FileTree) (directory : String) :
    stale tree directory = [] ↔ Holds tree directory all := by
  simp only [stale, List.filterMap_eq_nil_iff, Option.map_eq_none_iff, staleness?_eq_none, Holds]

/-- The check changes nothing, and succeeds just if every file holds what it should. -/
theorem endAt_check (directory : String) (site : Site) :
    (check directory).endAt site = (if stale site.shop.tree directory = [] then .ok ()
      else .error (.stale (stale site.shop.tree directory)), site) := by
  unfold check
  rw [TaskM.endAt_bind, TaskM.endAt_tree]
  dsimp only
  cases stale site.shop.tree directory <;> rfl

theorem check_ok_iff {directory : String} {site after : Site} :
    (check directory).endAt site = (.ok (), after) ↔
      Holds site.shop.tree directory all ∧ after = site := by
  rw [endAt_check, ← stale_eq_nil_iff]
  by_cases hstale : stale site.shop.tree directory = [] <;> simp [hstale, eq_comm]

/-! ## Writing -/

theorem writeOne_ok {directory : String} {file : String × Schema} {site after : Site}
    (h : (writeOne directory file).endAt site = (.ok (), after)) :
    site.shop.tree.write (Path.join directory file.1) (textOf file.2) = .ok after.shop.tree := by
  unfold writeOne at h
  obtain ⟨_, middle, hwrite, hreport⟩ := TaskM.endAt_bind_ok_iff.mp h
  rw [TaskM.endAt_write] at hwrite
  cases hwritten : site.shop.tree.write (Path.join directory file.1) (textOf file.2) with
  | error cause => simp [hwritten] at hwrite
  | ok written =>
    obtain rfl : TaskM.withTree site written = middle := by simpa [hwritten] using hwrite
    rw [TaskM.endAt_report] at hreport
    obtain rfl := (Prod.mk.inj hreport).2
    rfl

theorem isName_of_mem {file : String × Schema} (h : file ∈ all) : Path.IsName file.1 := by
  have hall : ∀ name ∈ names, name.isEmpty = false ∧ '/' ∉ name.toList
      ∧ FileTree.isPoint name.toList = false := by decide +kernel
  obtain ⟨hnamed, hplain, hpoint⟩ := hall file.1 (List.mem_map_of_mem h)
  exact ⟨hnamed, hplain, hpoint⟩

/-- One more file is written; those that were written before it stay. -/
theorem holds_concat {directory : String} {before : List (String × Schema)}
    {file : String × Schema} {site after : Site} (hnames : ∀ other ∈ before ++ [file], other ∈ all)
    (hnew : file.1 ∉ before.map (·.1)) (hheld : Holds site.shop.tree directory before)
    (h : (writeOne directory file).endAt site = (.ok (), after)) :
    Holds after.shop.tree directory (before ++ [file]) := by
  have hwrite := writeOne_ok h
  intro other ho
  rcases List.mem_append.mp ho with hbefore | hlast
  · have hne : other.1 ≠ file.1 := fun heq => hnew (heq ▸ List.mem_map_of_mem hbefore)
    exact FileTree.read_of_write (isName_of_mem (hnames file (by simp)))
      (isName_of_mem (hnames other ho)) hne hwrite (hheld other hbefore)
  · rw [List.mem_singleton.mp hlast]
    exact FileTree.read_written hwrite

/-- Files are written one after the other, and in the end all of them are there. -/
theorem holds_of_runs {directory : String} {files before : List (String × Schema)}
    {site after : Site} (hnames : ∀ other ∈ before ++ files, other ∈ all)
    (hnodup : ((before ++ files).map (·.1)).Nodup) (hheld : Holds site.shop.tree directory before)
    (h : TaskM.Runs (writeOne directory) files site after) :
    Holds after.shop.tree directory (before ++ files) := by
  induction files generalizing before site with
  | nil =>
    cases h
    rwa [List.append_nil]
  | cons file files ih =>
    cases h with
    | cons hfile hrest =>
      rw [List.append_cons] at hnames hnodup ⊢
      have hnew : file.1 ∉ before.map (·.1) := by
        rw [List.map_append, List.map_append] at hnodup
        have hapart := (List.nodup_append.mp (List.nodup_append.mp hnodup).1).2.2
        exact fun hm => hapart file.1 hm file.1 (by simp) rfl
      have hknown : ∀ other ∈ before ++ [file], other ∈ all := fun other ho =>
        hnames other (List.mem_append_left files ho)
      exact ih hnames hnodup (holds_concat hknown hnew hheld hfile) hrest

theorem holds_written {directory : String} {files : List (String × Schema)} {site after : Site}
    (hknown : ∀ file ∈ files, file ∈ all) (hnodup : (files.map (·.1)).Nodup)
    (h : TaskM.Runs (writeOne directory) files site after) :
    Holds after.shop.tree directory files := by
  have hheld : Holds site.shop.tree directory [] := fun file hfile => absurd hfile (by simp)
  show Holds after.shop.tree directory ([] ++ files)
  exact holds_of_runs hknown hnodup hheld h

/-- **Schema files.** Where the files could be written, the check that follows succeeds and changes
nothing, whatever was there before. -/
theorem check_of_write {directory : String} {site after : Site}
    (h : (write directory).endAt site = (.ok (), after)) :
    (check directory).endAt after = (.ok (), after) := by
  obtain ⟨_, middle, -, hwrites⟩ := TaskM.endAt_bind_ok_iff.mp h
  have hall := holds_written (fun _ h => h) names_nodup (TaskM.endAt_forM_ok_iff.mp hwrites)
  exact check_ok_iff.mpr ⟨hall, rfl⟩

/-- The only thing that can go wrong with one file is that it cannot be written. -/
theorem writeOne_error {directory : String} {file : String × Schema} {site after : Site}
    {error : TaskError} (h : (writeOne directory file).endAt site = (.error error, after)) :
    ∃ cause, error = .unwritable (Path.join directory file.1) cause ∧ after = site := by
  unfold writeOne at h
  rcases TaskM.endAt_bind_error_iff.mp h with hwrite | ⟨_, middle, -, hreport⟩
  · rw [TaskM.endAt_write] at hwrite
    cases hwritten : site.shop.tree.write (Path.join directory file.1) (textOf file.2) with
    | error cause =>
      simp only [hwritten, Prod.mk.injEq, Except.error.injEq] at hwrite
      exact ⟨cause, hwrite.1.symm, hwrite.2.symm⟩
    | ok written => simp [hwritten] at hwrite
  · simp at hreport

/-- **Unfinished writing.** If the directory is there but one of the files cannot be written, those
that come before it hold what they should. -/
theorem write_error {directory : String} {site after : Site} {error : TaskError}
    (h : (write directory).endAt site = (.error error, after)) :
    (∃ cause, error = .directoryUncreatable cause) ∨
      ∃ before file rest cause, all = before ++ file :: rest ∧
        error = .unwritable (Path.join directory file.1) cause ∧
          Holds after.shop.tree directory before := by
  rcases TaskM.endAt_bind_error_iff.mp h with hmake | ⟨_, middle, -, hwrites⟩
  · left
    rw [TaskM.endAt_createDirs] at hmake
    cases hmade : site.shop.tree.createDirs directory with
    | ok made => simp [hmade] at hmake
    | error halted =>
      simp only [hmade, Prod.mk.injEq, Except.error.injEq] at hmake
      exact ⟨halted.fault, hmake.1.symm⟩
  · right
    obtain ⟨before, file, rest, reached, hall, hbefore, hfile⟩ :=
      TaskM.endAt_forM_error_iff.mp hwrites
    obtain ⟨cause, herror, rfl⟩ := writeOne_error hfile
    have hknown : ∀ other ∈ before, other ∈ all := fun other ho =>
      hall ▸ List.mem_append_left _ ho
    have hnodup : (before.map (·.1)).Nodup := by
      have hnames := names_nodup
      rw [names, hall, List.map_append] at hnames
      exact (List.nodup_append.mp hnames).1
    exact ⟨before, file, rest, cause, hall, herror, holds_written hknown hnodup hbefore⟩

end SchemaFiles
end AccessReport
