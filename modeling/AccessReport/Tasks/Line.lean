import AccessReport.Command.Arguments
import AccessReport.Command.Error
import AccessReport.Tasks.SchemaFiles
/-!
# Task lines

The tasks with their options, how they are read from arguments, and how they end.
-/
namespace AccessReport

open Arguments

inductive TaskLine where
  /-- Everything that has to hold before a change is handed in. -/
  | checks
  | writeSchemas (directory : String)
  | checkSchemas (directory : String)
deriving DecidableEq, Repr

namespace TaskLine

/-! ## Reading -/

def defaultDirectory : String := "schemas"

def schemaSwitches : List Switch := [
  helpSwitch,
  { name := "out-dir", effect := .value fun value => !value.isEmpty },
  { name := "check", effect := .flag }]

def names : List String := ["ci", "schema"]

/-- The options of each task. -/
def grammarOf : String → Grammar
  | "schema" => { switches := schemaSwitches }
  | _ => { switches := [helpSwitch] }

def grammar : Grammar := { switches := [helpSwitch], commands := names ++ ["help"] }

def ofGiven (name : String) (given : Given) : TaskLine :=
  let directory := (given.value? "out-dir").getD defaultDirectory
  if name = "ci" then checks
  else if given.has "check" then checkSchemas directory
  else writeSchemas directory

def ofArguments (arguments : List String) : Except Refusal TaskLine := do
  match ← read grammar {} arguments with
  | (_, none) => throw .fault
  | (_, some (name, rest)) =>
    if name = "help" then throw (helpRefusal (names ++ ["help"]) rest)
    else pure (ofGiven name (← readAll (grammarOf name) rest))

/-! ## Running -/

/-- The calls that have to succeed before a change is handed in. -/
def checkedCalls : List (List String) := [
  ["fmt", "--check"],
  ["clippy", "--workspace", "--all-targets", "--", "-D", "warnings"],
  ["test", "--workspace"]]

/-- The calls and, if there are schema files, their check (`ci`). -/
def runChecks : TaskM Unit := do
  checkedCalls.forM (TaskM.call "cargo")
  if (← TaskM.tree).locate defaultDirectory matches .ok _ then
    SchemaFiles.check defaultDirectory

def run : TaskLine → TaskM Unit
  | checks => runChecks
  | writeSchemas directory => SchemaFiles.write directory
  | checkSchemas directory => SchemaFiles.check directory

end TaskLine

/-- How a task ended. -/
structure TaskEnd where
  exitCode : Nat
  site : Site

namespace TaskEnd

/-- What is written about an error. -/
def errorText (error : TaskError) : String :=
  "Error: " ++ ErrorText.ofChain error.message error.causes

def ofLine (line : TaskLine) (shop : Workshop) : TaskEnd :=
  match line.run.endAt { shop } with
  | (.ok (), site) => { exitCode := 0, site }
  | (.error error, site) =>
    { exitCode := 1, site := { site with stderr := site.stderr ++ errorText error ++ "\n" } }

/-- Does the task that the arguments tell. -/
def perform (arguments : List String) (shop : Workshop) : TaskEnd ⊕ Refusal :=
  match TaskLine.ofArguments arguments with
  | .error refusal => .inr refusal
  | .ok line => .inl (ofLine line shop)

end TaskEnd
end AccessReport
