import AccessReport.Tasks.Process
import AccessReport.Text.Revealed
/-!
# Tasks

Chores around the project itself. A task works on files, runs programs, and may print on the way;
what it did before it failed stays done.
-/
namespace AccessReport

/-- What is wrong with a file that should hold something certain. -/
inductive Staleness where
  | missing
  | outOfDate
deriving DecidableEq, Repr

def Staleness.words : Staleness → String
  | missing => "missing"
  | outOfDate => "out of date"

inductive TaskError where
  | directoryUncreatable (cause : FileFault)
  | unwritable (path : String) (cause : FileFault)
  | stale (files : List (String × Staleness))
  | unrunnable (program : String) (arguments : List String) (cause : FileFault)
  | failed (program : String) (arguments : List String)
deriving DecidableEq, Repr

namespace TaskError

/-- A file that is not as it should be. -/
def staleLine (file : String × Staleness) : String := s!"\n  {file.1} ({file.2.words})"

def message : TaskError → String
  | directoryUncreatable _ => "create schema output dir"
  | unwritable path _ => s!"write {path}"
  | stale files =>
    "schemas need regenerating with \x60cargo xtask schema\x60:" ++
      String.join (files.map staleLine)
  | unrunnable program arguments _ => s!"run {program} {Text.revealedList arguments}"
  | failed program arguments => s!"command failed: {program} {Text.revealedList arguments}"

/-- The messages of what caused the error. -/
def causes : TaskError → List String
  | directoryUncreatable cause | unwritable _ cause | unrunnable _ _ cause => [cause.message]
  | stale _ | failed _ _ => []

end TaskError

/-- Where tasks are done, and what they have printed. -/
structure Site where
  shop : Workshop
  stdout : String := ""
  stderr : String := ""

abbrev TaskM (α : Type) := ExceptT TaskError (StateM Site) α

namespace TaskM

def fail {α : Type} (error : TaskError) : TaskM α := throw error

/-- How a task that starts at a site ends, and how it leaves the site. -/
def endAt {α : Type} (task : TaskM α) (site : Site) : Except TaskError α × Site := task.run site

def tree : TaskM FileTree := do pure (← get).shop.tree

def setTree (tree : FileTree) : TaskM Unit :=
  modify fun site => { site with shop := { site.shop with tree } }

/-- Makes a directory and those that contain it, as far as it can be done. -/
def createDirs (directory : String) (error : FileFault → TaskError) : TaskM Unit := do
  match (← tree).createDirs directory with
  | .ok tree => setTree tree
  | .error halted => do
    setTree halted.left
    fail (error halted.fault)

/-- Writes a file, if it can be done. -/
def write (path text : String) (error : FileFault → TaskError) : TaskM Unit := do
  match (← tree).write path text with
  | .ok tree => setTree tree
  | .error cause => fail (error cause)

/-- Prints a line on the standard error output. -/
def report (line : String) : TaskM Unit :=
  modify fun site => { site with stderr := site.stderr ++ line ++ "\n" }

/-- Runs a program that has to succeed (`run`). -/
def call (program : String) (arguments : List String) : TaskM Unit := do
  match (← get).shop.run program arguments with
  | .error cause => fail (.unrunnable program arguments cause)
  | .ok ended =>
    modify fun site => { site with
      shop := { site.shop with tree := ended.tree }, stdout := site.stdout ++ ended.stdout }
    if ended.code ≠ 0 then fail (.failed program arguments)

end TaskM
end AccessReport
