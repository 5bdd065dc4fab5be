import AccessReport.Schema.Artifacts
import AccessReport.Schema.Printer
import AccessReport.Tasks.Basic
/-!
# Schema files

The schemas of what the program reads and writes, each in a file of its own, and whether the files
of a directory still are as they should be.

Results:
* `names_nodup`: no two schemas share a file.
* `staleness?_eq_none`: only a file with the very text is up to date.
-/
namespace AccessReport.SchemaFiles

/-- The schemas with the names of their files. -/
def all : List (String × Schema) := [
  ("a11ylens.config.schema.json", Schema.config),
  ("a11ylens.scan-results.schema.json", Schema.scanResults),
  ("a11ylens.unified.v1.schema.json", Schema.unifiedScanResult),
  ("a11ylens.cards.schema.json", Schema.cardsView)]

def names : List String := all.map (·.1)

theorem names_nodup : names.Nodup := by decide

/-- What the file of a schema holds (`render_pretty_json`). -/
def textOf (schema : Schema) : String := schema.toJson.pretty

/-- Writes the file of a schema into a directory (`write_pretty_json`). -/
def writeOne (directory : String) (file : String × Schema) : TaskM Unit := do
  let path := Path.join directory file.1
  TaskM.write path (textOf file.2) (.unwritable path)
  TaskM.report s!"wrote {path}"

/-- Writes all files into a directory (`write_schemas`). -/
def write (directory : String) : TaskM Unit := do
  TaskM.createDirs directory .directoryUncreatable
  all.forM (writeOne directory)

/-- What is wrong with a file that should hold a text. A file that cannot be read is missing. -/
def staleness? (tree : FileTree) (path text : String) : Option Staleness :=
  match tree.read path with
  | .ok held => if held = text then none else some .outOfDate
  | .error _ => some .missing

theorem staleness?_eq_none (tree : FileTree) (path text : String) :
    staleness? tree path text = none ↔ tree.read path = .ok text := by
  unfold staleness?
  split <;> simp_all

/-- The files of a directory that are not as they should be. -/
def stale (tree : FileTree) (directory : String) : List (String × Staleness) :=
  all.filterMap fun (name, schema) =>
    let path := Path.join directory name
    (staleness? tree path (textOf schema)).map fun staleness => (path, staleness)

/-- Fails if a file of a directory is not as it should be (`check_schemas`). -/
def check (directory : String) : TaskM Unit := do
  match stale (← TaskM.tree) directory with
  | [] => pure ()
  | files => TaskM.fail (.stale files)

end AccessReport.SchemaFiles
