import Mathlib.Data.List.TakeWhile
import AccessReport.Files.Tree
import AccessReport.Proofs.Outcomes
/-!
# Growth of file trees

Making directories takes nothing away from a file tree, and writing a file replaces nothing but
that file. Directories that are there stay there, so whatever a path leads to it still leads to.

* `walk_cons_ok_iff`, `walk_append_ok_iff`: a path is followed name by name.
* `Keeps.walk`, `Keeps.locate`: where directories stay, paths lead where they led.
* `createDirs_grown`: what comes of making a directory with those that contain it, whether it is
  done to the end or up to a fault.
* `Grown.written`: what comes of writing a file after that.
-/
namespace AccessReport.FileTree

variable {tree before after : FileTree} {path : String}

/-! ## Following paths -/

/-- Where a name leads from a directory. -/
def next (location : List String) (component : List Char) : Except FileFault (List String) :=
  if component.isEmpty || component == ['.'] then .ok location
  else if component == ['.', '.'] then .ok location.dropLast
  else if isTooLong component then .error .nameTooLong
  else .ok (location ++ [String.ofList component])

theorem walk_cons_ok_iff {location reached : List String} {component : List Char}
    {rest : List (List Char)} :
    tree.walk location (component :: rest) = .ok reached ↔
      tree.find? location = some .directory ∧
        ∃ middle, next location component = .ok middle ∧ tree.walk middle rest = .ok reached := by
  rw [walk, next]
  cases tree.find? location with
  | none => simp
  | some entry =>
    cases entry with
    | file text => simp
    | directory =>
      simp only [true_and]
      split
      · simp
      · split
        · simp
        · split <;> simp

theorem walk_append_ok_iff {location reached : List String} {first second : List (List Char)} :
    tree.walk location (first ++ second) = .ok reached ↔
      ∃ middle, tree.walk location first = .ok middle ∧ tree.walk middle second = .ok reached := by
  induction first generalizing location with
  | nil => simp [walk]
  | cons component rest ih =>
    rw [List.cons_append, walk_cons_ok_iff]
    constructor
    · rintro ⟨hdirectory, between, hnext, hrest⟩
      obtain ⟨middle, hfirst, hsecond⟩ := ih.mp hrest
      exact ⟨middle, walk_cons_ok_iff.mpr ⟨hdirectory, between, hnext, hfirst⟩, hsecond⟩
    · rintro ⟨middle, hfirst, hsecond⟩
      obtain ⟨hdirectory, between, hnext, hrest⟩ := walk_cons_ok_iff.mp hfirst
      exact ⟨hdirectory, between, hnext, ih.mpr ⟨middle, hrest, hsecond⟩⟩

/-- Slashes at the end of a path lead nowhere else. -/
theorem walk_blanks {location : List String} {blanks : List (List Char)}
    (hdirectory : tree.find? location = some .directory)
    (hblank : ∀ blank ∈ blanks, blank.isEmpty = true) :
    tree.walk location blanks = .ok location := by
  induction blanks with
  | nil => rfl
  | cons blank rest ih =>
    obtain ⟨hb, hrest⟩ := List.forall_mem_cons.mp hblank
    refine walk_cons_ok_iff.mpr ⟨hdirectory, location, ?_, ih hrest⟩
    simp [next, hb]

theorem locate_ok_iff {location : List String} :
    tree.locate path = .ok location ↔
      checkPath path = .ok () ∧ tree.walk (tree.start path) (Path.components path) = .ok location ∧
        (tree.find? location).isSome := by
  simp only [locate, bind_eq_ok]
  constructor
  · rintro ⟨_, hcheck, reached, hwalk, h⟩
    split at h
    · cases h
      exact ⟨hcheck, hwalk, by simp [*]⟩
    · cases h
  · rintro ⟨hcheck, hwalk, hsome⟩
    obtain ⟨entry, hentry⟩ := Option.isSome_iff_exists.mp hsome
    exact ⟨(), hcheck, location, hwalk, by rw [hentry]; rfl⟩

theorem read_of_locate {location : List String} {text : String}
    (hlocate : tree.locate path = .ok location) (hfile : tree.find? location = some (.file text)) :
    tree.read path = .ok text := by
  rw [read, hlocate, ok_bind, hfile]
  rfl

/-- A path whose last name that counts stands in a directory. -/
structure Stands (tree : FileTree) (path : String) (directory : List String) (name : List Char)
    (blanks : List (List Char)) : Prop where
  valid : checkPath path = .ok ()
  parts : ∃ above, Path.components path = above ++ name :: blanks ∧
    tree.walk (tree.start path) above = .ok directory
  blank : ∀ blank ∈ blanks, blank.isEmpty = true
  named : name.isEmpty = false
  short : isTooLong name = false
  inside : tree.find? directory = some .directory

/-- The parts of a path around the last one that is not empty. -/
theorem parts_of_dropWhile {parts above : List (List Char)} {name : List Char}
    (h : parts.reverse.dropWhile (·.isEmpty) = name :: above) :
    name.isEmpty = false ∧
      parts = above.reverse ++ name :: (parts.reverse.takeWhile (·.isEmpty)).reverse := by
  constructor
  · have hnamed := List.head?_dropWhile_not (·.isEmpty) parts.reverse
    rwa [h] at hnamed
  · have hsplit : parts.reverse = parts.reverse.takeWhile (·.isEmpty) ++ name :: above := by
      rw [← h, List.takeWhile_append_dropWhile]
    have hparts := congrArg List.reverse hsplit
    rwa [List.reverse_reverse, List.reverse_append, List.reverse_cons, List.append_assoc,
      List.singleton_append] at hparts

theorem stands_of_place {directory : List String} {name : List Char}
    (h : tree.place path = .ok (directory, name)) :
    ∃ blanks, tree.Stands path directory name blanks := by
  simp only [place, bind_eq_ok] at h
  obtain ⟨_, hcheck, h⟩ := h
  split at h
  · cases h
  · rename_i last above hlast
    obtain ⟨reached, hwalk, h⟩ := bind_eq_ok.mp h
    split at h
    · rename_i hinside
      split at h
      · cases h
      · rename_i hshort
        cases h
        obtain ⟨hnamed, hparts⟩ := parts_of_dropWhile hlast
        exact ⟨_, {
          valid := hcheck
          parts := ⟨_, hparts, hwalk⟩
          blank := fun blank hb => List.mem_takeWhile_imp (List.mem_reverse.mp hb)
          named := hnamed
          short := by simpa using hshort
          inside := hinside }⟩
    · cases h
    · cases h

/-! ## Where directories stay -/

/-- Nothing is taken away: directories stay directories. -/
structure Keeps (before after : FileTree) : Prop where
  home : after.home = before.home
  directory : ∀ location, before.find? location = some .directory →
    after.find? location = some .directory
  present : ∀ location, (before.find? location).isSome → (after.find? location).isSome

namespace Keeps

theorem refl (tree : FileTree) : tree.Keeps tree := ⟨rfl, fun _ h => h, fun _ h => h⟩

theorem trans {middle : FileTree} (h : before.Keeps middle) (h' : middle.Keeps after) :
    before.Keeps after where
  home := h'.home.trans h.home
  directory location hd := h'.directory location (h.directory location hd)
  present location hs := h'.present location (h.present location hs)

/-- Only a directory cannot be replaced. -/
theorem put {location : List String} (entry : Entry) (h : tree.find? location ≠ some .directory) :
    tree.Keeps (tree.put location entry) where
  home := rfl
  directory other hd := by
    have hne : other ≠ location := fun he => h (he ▸ hd)
    rw [find?_put_other tree entry hne, hd]
  present other hs := by
    by_cases he : other = location
    · rw [he, find?_put]
      rfl
    · rwa [find?_put_other tree entry he]

theorem start (h : before.Keeps after) (path : String) : after.start path = before.start path := by
  rw [FileTree.start, FileTree.start, h.home]

theorem walk (h : before.Keeps after) {location reached : List String}
    {components : List (List Char)} (hw : before.walk location components = .ok reached) :
    after.walk location components = .ok reached := by
  induction components generalizing location with
  | nil => exact hw
  | cons component rest ih =>
    obtain ⟨hdirectory, middle, hnext, hrest⟩ := walk_cons_ok_iff.mp hw
    exact walk_cons_ok_iff.mpr ⟨h.directory location hdirectory, middle, hnext, ih hrest⟩

theorem locate (h : before.Keeps after) {location : List String}
    (hl : before.locate path = .ok location) : after.locate path = .ok location := by
  obtain ⟨hcheck, hwalk, hsome⟩ := locate_ok_iff.mp hl
  refine locate_ok_iff.mpr ⟨hcheck, ?_, h.present location hsome⟩
  rw [h.start path]
  exact h.walk hwalk

end Keeps

namespace Stands

variable {directory : List String} {name : List Char} {blanks : List (List Char)}

/-- What is put where the path stands is found by the path. -/
theorem locate_put (h : tree.Stands path directory name blanks) {entry : Entry}
    (hpoint : isPoint name = false)
    (hfree : tree.find? (directory ++ [String.ofList name]) ≠ some .directory)
    (hblanks : entry = .directory ∨ blanks = []) :
    (tree.put (directory ++ [String.ofList name]) entry).locate path
      = .ok (directory ++ [String.ofList name]) := by
  have hkeeps := Keeps.put entry hfree
  obtain ⟨above, hparts, hwalk⟩ := h.parts
  refine locate_ok_iff.mpr ⟨h.valid, ?_, by rw [find?_put]; rfl⟩
  rw [hparts, hkeeps.start path]
  refine walk_append_ok_iff.mpr ⟨directory, hkeeps.walk hwalk, walk_cons_ok_iff.mpr
    ⟨hkeeps.directory directory h.inside, directory ++ [String.ofList name], ?_, ?_⟩⟩
  · obtain ⟨hdot, hdots⟩ := Bool.or_eq_false_iff.mp hpoint
    simp only [next, h.named, hdot, hdots, h.short, Bool.or_self, Bool.false_eq_true, if_false]
  -- Behind a file not even a slash may follow.
  · rcases hblanks with rfl | rfl
    · exact walk_blanks (find?_put ..) h.blank
    · rfl

/-- A path that does not end in a slash ends in its name. -/
theorem blanks_eq_nil (h : tree.Stands path directory name blanks)
    (hslash : ['/'].isSuffixOf path.toList = false) : blanks = [] := by
  obtain ⟨above, hparts, -⟩ := h.parts
  rcases List.eq_nil_or_concat blanks with hnil | ⟨init, last, rfl⟩
  · exact hnil
  · have hlast : last = [] := List.isEmpty_iff.mp (h.blank last (by simp))
    have hpath : path.toList = Text.joinWith ['/'] (above ++ name :: init) ++ ['/'] := by
      rw [← Text.joinWith_splitAt '/' path.toList]
      change Text.joinWith ['/'] (Path.components path) = _
      rw [hparts, hlast, List.concat_eq_append, ← List.cons_append, ← List.append_assoc,
        Text.joinWith_concat _ (by simp), List.append_nil]
    rw [hpath, List.isSuffixOf_iff_suffix.mpr (List.suffix_append ..)] at hslash
    cases hslash

end Stands

/-! ## Making directories -/

/-- At a location all is as it was, or a directory is new there to which one of the paths leads. -/
def SameOrNew (paths : List String) (before after : FileTree) (location : List String) : Prop :=
  after.find? location = before.find? location ∨
    before.find? location = none ∧ after.find? location = some .directory ∧
      ∃ path ∈ paths, after.locate path = .ok location

theorem SameOrNew.file_iff {paths : List String} {location : List String}
    (h : SameOrNew paths before after location) {text : String} :
    after.find? location = some (.file text) ↔ before.find? location = some (.file text) := by
  obtain hsame | ⟨hnone, hnew, -⟩ := h
  · rw [hsame]
  · simp [hnone, hnew]

/-- The tree after directories were made at some of the paths. -/
structure Grown (paths : List String) (before after : FileTree) : Prop where
  home : after.home = before.home
  same_or_new : ∀ location, SameOrNew paths before after location

namespace Grown

variable {paths : List String}

theorem refl (paths : List String) (tree : FileTree) : tree.Grown paths tree :=
  ⟨rfl, fun _ => .inl rfl⟩

theorem keeps (h : before.Grown paths after) : before.Keeps after where
  home := h.home
  directory location hd := by
    obtain hsame | ⟨-, hnew, -⟩ := h.same_or_new location
    · rw [hsame, hd]
    · exact hnew
  present location hs := by
    obtain hsame | ⟨-, hnew, -⟩ := h.same_or_new location
    · rwa [hsame]
    · rw [hnew]
      rfl

theorem mono {more : List String} (h : before.Grown paths after) (hsub : paths ⊆ more) :
    before.Grown more after where
  home := h.home
  same_or_new location := (h.same_or_new location).imp_right
    fun ⟨hnone, hnew, path, hp, hl⟩ => ⟨hnone, hnew, path, hsub hp, hl⟩

theorem trans {middle : FileTree} (h : before.Grown paths middle) (h' : middle.Grown paths after) :
    before.Grown paths after where
  home := h'.home.trans h.home
  same_or_new location := by
    obtain hsame | ⟨hnone, hnew, path, hp, hl⟩ := h.same_or_new location
    · rw [SameOrNew, ← hsame]
      exact h'.same_or_new location
    · obtain hsame' | ⟨hnone', -, -⟩ := h'.same_or_new location
      · exact .inr ⟨hnone, hsame'.trans hnew, path, hp, h'.keeps.locate hl⟩
      · rw [hnew] at hnone'
        cases hnone'

end Grown

theorem createDir_grown (h : tree.createDir path = .ok after) : tree.Grown [path] after := by
  obtain ⟨⟨directory, name⟩, hplace, h⟩ := bind_eq_ok.mp h
  obtain ⟨hrefused, rfl⟩ := refuse_eq_ok.mp h
  obtain ⟨hpoint, hfree⟩ := Bool.or_eq_false_iff.mp hrefused
  have hnone := Option.isSome_eq_false_iff.mp hfree
  rw [Option.isNone_iff_eq_none] at hnone
  obtain ⟨blanks, hstands⟩ := stands_of_place hplace
  have hlocate := hstands.locate_put hpoint (by rw [hnone]; simp) (.inl rfl)
  refine ⟨rfl, fun location => ?_⟩
  by_cases he : location = directory ++ [String.ofList name]
  · exact .inr ⟨he ▸ hnone, he ▸ find?_put .., path, List.mem_singleton_self path, he ▸ hlocate⟩
  · exact .inl (find?_put_other tree .directory he)

/-- The tree as changes leave it. -/
def afterwards : Except Halted FileTree → FileTree
  | .ok tree => tree
  | .error halted => halted.left

theorem ensureDir_grown (tree : FileTree) (path : String) :
    tree.Grown [path] (afterwards (tree.ensureDir path)) := by
  unfold ensureDir
  cases hmade : tree.createDir path with
  | ok created => exact createDir_grown hmade
  | error fault =>
    dsimp only
    split <;> exact .refl _ tree

/-- The directories that contain the last one come first, so each is made in a tree that may have
grown already. -/
theorem createDirsFrom_grown (tree : FileTree) (path : String) (parents : List String) :
    tree.Grown (path :: parents) (afterwards (tree.createDirsFrom path parents)) := by
  induction parents generalizing path with
  | nil => exact ensureDir_grown tree path
  | cons parent above ih =>
    unfold createDirsFrom
    have hpath : [path] ⊆ path :: parent :: above := by simp
    have hparents : parent :: above ⊆ path :: parent :: above := List.subset_cons_self ..
    split
    · exact .refl _ tree
    · split
      · rename_i created hmade
        exact (createDir_grown hmade).mono hpath
      · have habove := (ih parent).mono hparents
        cases hmade : tree.createDirsFrom parent above with
        | error halted =>
          rw [hmade] at habove
          exact habove
        | ok middle =>
          rw [hmade] at habove
          exact habove.trans ((ensureDir_grown middle path).mono hpath)
      · split <;> exact .refl _ tree

theorem createDirs_grown (tree : FileTree) (path : String) :
    tree.Grown (path :: Path.ancestors path) (afterwards (tree.createDirs path)) := by
  unfold createDirs
  split
  · exact .refl _ tree
  · exact createDirsFrom_grown tree path (Path.ancestors path)

/-! ## Writing files -/

/-- The tree after a text was written to a file at a path, for which directories were made at some
of the paths. -/
structure Written (paths : List String) (before after : FileTree) (path text : String)
    (location : List String) : Prop where
  home : after.home = before.home
  locate : after.locate path = .ok location
  read : after.read path = .ok text
  /-- No directory had to make way for the file. -/
  free : before.find? location ≠ some .directory
  elsewhere : ∀ other, other ≠ location → SameOrNew paths before after other

theorem write_ok {text : String} (h : tree.write path text = .ok after) :
    ∃ location, tree.find? location ≠ some .directory ∧ after.locate path = .ok location ∧
      after = tree.put location (.file text) := by
  obtain ⟨⟨directory, name⟩, hplace, h⟩ := bind_eq_ok.mp h
  obtain ⟨blanks, hstands⟩ := stands_of_place hplace
  dsimp only at h
  split at h
  · cases h
  · rename_i hrefused
    obtain ⟨hpoint, hslash⟩ := Bool.or_eq_false_iff.mp (Bool.eq_false_iff.mpr hrefused)
    split at h
    · cases h
    · rename_i hfree
      cases h
      exact ⟨_, hfree, hstands.locate_put hpoint hfree (.inr (hstands.blanks_eq_nil hslash)), rfl⟩

/-- Whatever is made before the file is written, the file takes the place of no directory. -/
theorem Grown.written {paths : List String} {middle : FileTree} {text : String}
    (h : before.Grown paths middle) (hw : middle.write path text = .ok after) :
    ∃ location, Written paths before after path text location := by
  obtain ⟨location, hfree, hlocate, rfl⟩ := write_ok hw
  refine ⟨location, h.home, hlocate, read_of_locate hlocate (find?_put ..), ?_, ?_⟩
  · intro hdirectory
    exact hfree (h.keeps.directory location hdirectory)
  · intro other hne
    have hsame := find?_put_other middle (.file text) hne
    obtain hold | ⟨hnone, hnew, made, hmade, hled⟩ := h.same_or_new other
    · exact .inl (hsame.trans hold)
    · exact .inr ⟨hnone, hsame.trans hnew, made, hmade, (Keeps.put _ hfree).locate hled⟩

end AccessReport.FileTree
