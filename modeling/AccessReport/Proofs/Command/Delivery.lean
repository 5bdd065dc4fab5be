import AccessReport.Proofs.Command.Products
import AccessReport.Proofs.Files.Growth
/-!
# What commands leave behind

The commands that make something of a scan read all they need in the tree as they find it, and
write only at the very end. So a run that fails has written nothing: whatever it fails with, the
files are as they were, and there is nothing to print. Only directories for the file may be new,
since they are made before the file. A run that goes well either prints what it made or puts it
into the file, even if it has read that file before.

* `Command.run_scan_ok_iff`: what a command makes of the scan it reads.
* `Output.deliver_file`: what becomes of an output that goes into a file.
* `Completion.all_or_nothing`: a whole run.
-/
namespace AccessReport

variable {around : Surroundings}

/-! ## What commands make -/

/-- A report with or without a selection. -/
def ScanInputs.reportWith (inputs : ScanInputs) (title : Option String) (needsReview : Bool)
    (held : Option Selection) (uids : UidSupply) : Report :=
  .ofScan { inputs.plan title needsReview with selection := held } inputs.registries uids
    inputs.engine

namespace Command

/-- The options of the commands that make something of a scan. -/
def scan? : Command → Option ScanOptions
  | decorate options | unify options _ | cards options _ _ => some options
  | rules _ | explain _ | validate _ _ => none

/-- What a command makes of all it reads. -/
inductive Makes (around : Surroundings) (source : ConfigSource) (uids : UidSupply) :
    Command → Json → Prop
  | decorate {options : ScanOptions} {inputs : ScanInputs}
      (h : inputs.In around source options.input) :
      Makes around source uids (.decorate options)
        (inputs.registries.decorate (inputs.config.titleFor options.title) inputs.engine).toJson
  | unify {options : ScanOptions} {needsReview : Bool} {inputs : ScanInputs}
      (h : inputs.In around source options.input) :
      Makes around source uids (.unify options needsReview)
        (inputs.reportWith options.title needsReview none uids).unified.toJson
  | cards {options : ScanOptions} {needsReview : Bool} {selected : Option String}
      {inputs : ScanInputs} {held : Option Selection} (h : inputs.In around source options.input)
      (hheld : ((selectionIn selected).run around).outcome = .ok held) :
      Makes around source uids (.cards options needsReview selected)
        (inputs.reportWith options.title needsReview held uids).cards.toJson

/-- A command that goes well puts out what it has made, and nothing else. -/
theorem run_scan_ok_iff {command : Command} {source : ConfigSource} {uids : UidSupply}
    {options : ScanOptions} (hscan : command.scan? = some options) {result : Nat × Output} :
    ((command.run source uids).run around).outcome = .ok result ↔
      ∃ json, command.Makes around source uids json ∧ result = (0, .ofJson options.out json) := by
  cases command with
  | decorate options =>
    cases hscan
    rw [run, outcome_ending]
    constructor
    · rintro ⟨_, hmade, rfl⟩
      obtain ⟨inputs, h, rfl⟩ := decorated_ok_iff.mp hmade
      exact ⟨_, .decorate h, rfl⟩
    · rintro ⟨_, hmakes, rfl⟩
      cases hmakes with
      | decorate h => exact ⟨_, decorated_ok_iff.mpr ⟨_, h, rfl⟩, rfl⟩
  | unify options needsReview =>
    cases hscan
    rw [run, outcome_ending]
    constructor
    · rintro ⟨_, hmade, rfl⟩
      obtain ⟨inputs, h, rfl⟩ := report_ok_iff.mp hmade
      exact ⟨_, .unify h, rfl⟩
    · rintro ⟨_, hmakes, rfl⟩
      cases hmakes with
      | unify h => exact ⟨_, report_ok_iff.mpr ⟨_, h, rfl⟩, rfl⟩
  | cards options needsReview selected =>
    cases hscan
    rw [run, outcome_ending]
    constructor
    · rintro ⟨_, hmade, rfl⟩
      obtain ⟨inputs, held, h, hheld, rfl⟩ := report_selected_ok_iff.mp hmade
      exact ⟨_, .cards h hheld, rfl⟩
    · rintro ⟨_, hmakes, rfl⟩
      cases hmakes with
      | cards h hheld => exact ⟨_, report_selected_ok_iff.mpr ⟨_, _, h, hheld, rfl⟩, rfl⟩
  | rules format => cases hscan
  | explain ruleId => cases hscan
  | validate strict format => cases hscan

end Command

/-! ## What becomes of an output -/

namespace Output

/-- The directories that have to be there before a file, nearest first. -/
def directories (path : String) : List String :=
  match directory? path with
  | none => []
  | some directory => directory :: Path.ancestors directory

/-- As far as the directories of a file are made, there are only new directories. -/
theorem prepare_grown (tree : FileTree) (path : String) :
    (∀ after, prepare tree path = .ok after → tree.Grown (directories path) after) ∧
      ∀ error left, prepare tree path = .error (error, left) →
        tree.Grown (directories path) left := by
  rw [prepare, directories]
  cases directory? path with
  | none =>
    constructor
    · rintro after ⟨⟩
      exact .refl _ tree
    · rintro error left ⟨⟩
  | some directory =>
    have hgrown := tree.createDirs_grown directory
    dsimp only
    cases hmade : tree.createDirs directory with
    | ok made =>
      rw [hmade] at hgrown
      constructor
      · rintro after ⟨⟩
        exact hgrown
      · rintro error left ⟨⟩
    | error halted =>
      rw [hmade] at hgrown
      constructor
      · rintro after ⟨⟩
      · rintro error left ⟨⟩
        exact hgrown

/-- The files after a text was to be put into one: it stands there, or nothing came of it but
directories. -/
theorem deliver_file (tree : FileTree) (path text : String) :
    let delivered := (file path text).deliver tree
    (delivered.2.outcome = .ok "" ∧
        ∃ location, tree.Written (directories path) delivered.1 path text location) ∨
      (∃ error, delivered.2.outcome = .error error) ∧
        tree.Grown (directories path) delivered.1 := by
  obtain ⟨hok, herror⟩ := prepare_grown tree path
  simp only [deliver]
  cases hprepared : prepare tree path with
  | error fault => exact .inr ⟨⟨fault.1, rfl⟩, herror _ _ hprepared⟩
  | ok prepared =>
    have hgrown := hok prepared hprepared
    dsimp only
    cases hwritten : prepared.write path text with
    | error cause => exact .inr ⟨⟨_, rfl⟩, hgrown⟩
    | ok after => exact .inl ⟨rfl, hgrown.written hwritten⟩

end Output

/-! ## A whole run -/

namespace Completion

/-- A run that leaves nothing behind: it prints nothing, and there are the same files as before
with the same texts. At most directories for its file are new. -/
structure Withheld (completion : Completion) (tree : FileTree) (out : Option String) : Prop where
  stdout : completion.stdout = ""
  files : ∀ location text, completion.tree.find? location = some (.file text) ↔
    tree.find? location = some (.file text)
  grown : tree.Grown (out.elim [] Output.directories) completion.tree

/-- A run that leaves a value as JSON behind: without a file it is printed and nothing changes;
with a file it stands there, nothing is printed, and all the other files are as before. -/
def Delivered (completion : Completion) (tree : FileTree) (json : Json) : Option String → Prop
  | none => completion.stdout = json.pretty ++ "\n" ∧ completion.tree = tree
  | some path => completion.stdout = "" ∧ ∃ location,
    tree.Written (Output.directories path) completion.tree path json.pretty location ∧
      ∀ other text, other ≠ location →
        (completion.tree.find? other = some (.file text) ↔ tree.find? other = some (.file text))

variable {line : CommandLine} {tree : FileTree} {environment : List (String × String)}
  {stdin : String} {uids : UidSupply}

theorem withheld_of_grown {completion : Completion} {out : Option String}
    (hstdout : completion.stdout = "")
    (h : tree.Grown (out.elim [] Output.directories) completion.tree) :
    completion.Withheld tree out :=
  ⟨hstdout, fun location _ => (h.same_or_new location).file_iff, h⟩

/-- What is left when a command fails by itself. -/
theorem ofLine_of_error {error : CommandError}
    (h : ((line.run uids).run (.ofTree tree environment stdin)).outcome = .error error) :
    (ofLine line tree environment stdin uids).exitCode = 1 ∧
      ∀ out, (ofLine line tree environment stdin uids).Withheld tree out := by
  simp only [ofLine, h, true_and]
  exact fun out => withheld_of_grown rfl (.refl _ tree)

/-- What is left when a command goes well and its value is put out. -/
theorem ofLine_of_ok {out : Option String} {json : Json}
    (h : ((line.run uids).run (.ofTree tree environment stdin)).outcome
      = .ok (0, .ofJson out json)) :
    let completion := ofLine line tree environment stdin uids
    (completion.exitCode = 0 ∧ completion.Delivered tree json out) ∨
      (completion.exitCode = 1 ∧ completion.Withheld tree out) := by
  intro completion
  cases out with
  | none =>
    have hcompletion : completion.exitCode = 0 ∧ completion.stdout = json.pretty ++ "\n" ∧
        completion.tree = tree := by
      simp only [completion, ofLine, h]
      exact ⟨rfl, rfl, rfl⟩
    exact .inl hcompletion
  | some path =>
    have hdelivered := Output.deliver_file tree path json.pretty
    simp only [completion, ofLine, h, Output.ofJson]
    dsimp only at hdelivered
    generalize (Output.file path json.pretty).deliver tree = delivered at hdelivered ⊢
    obtain ⟨houtcome, location, hwritten⟩ | ⟨⟨error, houtcome⟩, hgrown⟩ := hdelivered
    · simp only [houtcome, true_and]
      exact .inl ⟨rfl, location, hwritten,
        fun other text hne => (hwritten.elsewhere other hne).file_iff⟩
    · simp only [houtcome, true_and]
      exact .inr (withheld_of_grown rfl hgrown)

/-- **All or nothing.** For every row of arguments that asks for decorated results, an export or
cards: when the exit code is not zero nothing is printed and every file is as before, and when it
is zero what the command makes of the tree as it was is printed, or else is in its file, and no
other file has changed. -/
theorem all_or_nothing {arguments : List String} {line : CommandLine} {options : ScanOptions}
    (haccepted : CommandLine.ofArguments arguments = .ok line)
    (hscan : line.command.scan? = some options) (tree : FileTree)
    (environment : List (String × String)) (stdin : String) (uids : UidSupply) :
    ∃ completion, perform arguments tree environment stdin uids = .inl completion ∧
      (completion.exitCode ≠ 0 → completion.Withheld tree options.out) ∧
      (completion.exitCode = 0 →
        ∃ json, line.command.Makes (.ofTree tree environment stdin) line.source uids json ∧
          completion.Delivered tree json options.out) := by
  refine ⟨ofLine line tree environment stdin uids, by rw [perform, haccepted], ?_⟩
  cases hrun : ((line.run uids).run (.ofTree tree environment stdin)).outcome with
  | error error =>
    obtain ⟨hexit, hwithheld⟩ := ofLine_of_error hrun
    refine ⟨fun _ => hwithheld options.out, fun hzero => ?_⟩
    rw [hexit] at hzero
    cases hzero
  | ok result =>
    have hcommand : ((line.command.run line.source uids).run
        (.ofTree tree environment stdin)).outcome = .ok result := by
      rw [← hrun, CommandLine.run, Inquiry.run_bind, Traced.outcome_bind, Inquiry.run_tell,
        Traced.outcome_tell, ok_bind]
    obtain ⟨json, hmakes, rfl⟩ := (Command.run_scan_ok_iff hscan).mp hcommand
    obtain ⟨hexit, hdelivered⟩ | ⟨hexit, hwithheld⟩ := ofLine_of_ok hrun
    · exact ⟨fun hnonzero => absurd hexit hnonzero, fun _ => ⟨json, hmakes, hdelivered⟩⟩
    · refine ⟨fun _ => hwithheld, fun hzero => ?_⟩
      rw [hexit] at hzero
      cases hzero

/-- Arguments for the export of a scan into a file. -/
def exportArguments (out : String) : List String :=
  ["--no-default-rules", "unify", "--input", "scan.json", "--out", out]

def exportLine (out : String) : CommandLine where
  source := { noDefaults := true }
  command := .unify { input := "scan.json", out := some out } false

/-- A scan gives way to its own export. No file has a path that ends in a slash, but the directory
for it is made before that is found out. -/
theorem all_or_nothing_exported :
    let performed (out : String) :=
      perform (exportArguments out) scannedTree [] "" (Uid.supply 0 0)
    (∃ completion json, performed "scan.json" = .inl completion ∧
      completion.exitCode = 0 ∧ completion.stdout = "" ∧
      (exportLine "scan.json").command.Makes (.ofTree scannedTree [] "") { noDefaults := true }
        (Uid.supply 0 0) json ∧
      completion.tree.read "scan.json" = .ok json.pretty) ∧
    ∃ completion, performed "out/new/" = .inl completion ∧
      completion.exitCode = 1 ∧ completion.Withheld scannedTree (some "out/new/") ∧
      completion.tree.find? ["home", "out"] = some .directory := by
  intro performed
  constructor
  · have haccepted : CommandLine.ofArguments (exportArguments "scan.json")
        = .ok (exportLine "scan.json") := rfl
    obtain ⟨completion, hperformed, -, hdone⟩ :=
      all_or_nothing haccepted rfl scannedTree [] "" (Uid.supply 0 0)
    have hexit : (performed "scan.json").getLeft?.map (·.exitCode) = some 0 := by decide +kernel
    rw [show performed "scan.json" = .inl completion from hperformed] at hexit
    have hzero : completion.exitCode = 0 := Option.some.inj hexit
    obtain ⟨json, hmakes, hstdout, location, hwritten, -⟩ := hdone hzero
    exact ⟨completion, json, hperformed, hzero, hstdout, hmakes, hwritten.read⟩
  · have haccepted : CommandLine.ofArguments (exportArguments "out/new/")
        = .ok (exportLine "out/new/") := rfl
    obtain ⟨completion, hperformed, hfailed, -⟩ :=
      all_or_nothing haccepted rfl scannedTree [] "" (Uid.supply 0 0)
    have hleft : ((performed "out/new/").getLeft?.map fun completion =>
        (completion.exitCode, completion.tree.find? ["home", "out"]))
          = some (1, some .directory) := by
      decide +kernel
    rw [show performed "out/new/" = .inl completion from hperformed] at hleft
    obtain ⟨hexit, hmade⟩ := Prod.mk.inj (Option.some.inj hleft)
    refine ⟨completion, hperformed, hexit, hfailed ?_, hmade⟩
    rw [hexit]
    exact Nat.one_ne_zero

end Completion
end AccessReport
