import AccessReport.Cards.Format
import AccessReport.Command.Line
import AccessReport.Command.Validation
import AccessReport.Config.Explanation
import AccessReport.Config.Printer
/-!
# Running commands

A command asks its surroundings for what it reads, and ends with a text to print, or with a text
for a file. Writing comes last of all, so that nothing changes when a command fails before.
-/
namespace AccessReport

/-- What a command ends with. -/
inductive Output where
  | print (text : String)
  | file (path text : String)
deriving DecidableEq, Repr

/-- A value as JSON, to print or for a file (`emit_json`). -/
def Output.ofJson (out : Option String) (value : Json) : Output :=
  match out with
  | some path => file path value.pretty
  | none => print (value.pretty ++ "\n")

namespace Command

/-! ## Reading -/

/-- The text of the engine result (`read_input`). -/
def input (path : String) : Inquiry CommandError String := do
  if path = "-" then
    match ← Inquiry.input with
    | .ok text => pure text
    | .error cause => Inquiry.fail (.standardInputUnreadable cause)
  else
    match ← Inquiry.read path with
    | .ok text => pure text
    | .error cause => Inquiry.fail (.inputUnreadable path cause)

/-- The selection that a file holds (`load_selection`). -/
def selection (path : String) : Inquiry CommandError Selection := do
  match ← Inquiry.read path with
  | .error cause => Inquiry.fail (.selectionUnreadable path cause)
  | .ok text => match (Json.read? text).bind Selection.ofDocument? with
    | some selection => pure selection
    | none => Inquiry.fail (.selectionUnparsable path)

def config (source : ConfigSource) : Inquiry CommandError Config := source.load.mapError .config

/-- The registries of a configuration. -/
def registries (config : Config) : Inquiry CommandError Registries :=
  Inquiry.ofExcept ((Report.registries config).mapError .report)

/-! ## Commands -/

/-- The decorated results of the input (`cmd_decorate`). -/
def decorated (source : ConfigSource) (options : ScanOptions) : Inquiry CommandError Output := do
  let config ← config source
  let registries ← registries config
  let text ← input options.input
  let engine ← Inquiry.ofExcept ((Report.engineScan text).mapError .report)
  let scan := registries.decorate (config.titleFor options.title) engine
  Inquiry.tellAll ((registries.dropped engine).map fun drop => .droppedRule drop.1 drop.2)
  Inquiry.tell (.decorated scan.toBuckets.lengths)
  pure (.ofJson options.out scan.toJson)

/-- The report on the input. -/
def report (source : ConfigSource) (options : ScanOptions) (needsReview : Bool)
    (selected : Option String) (uids : UidSupply) : Inquiry CommandError Report := do
  let config ← config source
  let selection ← match selected with
    | some path => do pure (some (← selection path))
    | none => pure none
  let plan : ReportPlan :=
    { title := config.titleFor options.title, mode := config.modeFor needsReview, selection }
  let text ← input options.input
  Inquiry.ofTraced ((Report.run plan config text uids).mapError .report)

/-- The effective configuration as a text (`cmd_rules`). -/
def effectiveRules (source : ConfigSource) (format : RulesFormat) :
    Inquiry CommandError Output := do
  let config ← config source
  match format with
  | .toml => pure (.print config.toToml)
  | .json => pure (.print (config.toJson.pretty ++ "\n"))

/-- What is configured for a rule; another id is answered with those that are close to it
(`cmd_explain`). -/
def explanation (source : ConfigSource) (ruleId : String) : Inquiry CommandError Output := do
  let config ← config source
  let registries ← registries config
  match config.explanation? registries ruleId with
  | some text => pure (.print text)
  | none => Inquiry.fail (.unknownRule ruleId (config.suggestions ruleId))

def validation (source : ConfigSource) (strict : Bool) (format : ValidateFormat) :
    Inquiry CommandError (Nat × Output) := do
  let found ← Validation.run source strict
  match format with
  | .text => pure (found.exitCode, .print found.text)
  | .json => pure (found.exitCode, .print (found.toJson.pretty ++ "\n"))

/-- A command with its exit code. -/
def run (source : ConfigSource) (uids : UidSupply) :
    Command → Inquiry CommandError (Nat × Output)
  | decorate options => do pure (0, ← decorated source options)
  | unify options needsReview => do
    let report ← report source options needsReview none uids
    pure (0, .ofJson options.out report.unified.toJson)
  | cards options needsReview selected => do
    let report ← report source options needsReview selected uids
    pure (0, .ofJson options.out report.cards.toJson)
  | rules format => do pure (0, ← effectiveRules source format)
  | explain ruleId => do pure (0, ← explanation source ruleId)
  | validate strict format => validation source strict format

end Command

/-- The command of a command line. -/
def CommandLine.run (line : CommandLine) (uids : UidSupply) :
    Inquiry CommandError (Nat × Output) := do
  Inquiry.tell (.loggingInitialized line.logLevel)
  line.command.run line.source uids

/-! ## Writing -/

namespace Output

/-- The directory that has to be there before the file. -/
def directory? (path : String) : Option String := (Path.parent? path).filter (!·.isEmpty)

/-- The tree with the directory of a file; the error comes with the tree as it is left. -/
def prepare (tree : FileTree) (path : String) : Except (CommandError × FileTree) FileTree :=
  match directory? path with
  | none => .ok tree
  | some directory => (tree.createDirs directory).mapError fun halted =>
    (.directoryUncreatable directory halted.fault, halted.left)

/-- Writes the output: the files afterwards, and what is printed (`write_json`). -/
def deliver (tree : FileTree) : Output → FileTree × Traced CommandError String
  | print text => (tree, pure text)
  | file path text =>
    match prepare tree path with
    | .error (error, left) => (left, .fail error)
    | .ok tree => match tree.write path text with
      | .error cause => (tree, .fail (.unwritable path cause))
      | .ok tree => (tree, do Traced.tell (.wrote path); pure "")

end Output

/-! ## From arguments to the end -/

/-- How a run of the program ended. -/
structure Completion where
  exitCode : Nat
  stdout : String := ""
  error : Option CommandError := none
  tree : FileTree
  events : List Event := []

namespace Completion

/-- A command line in a file tree (`run_with_args`). -/
def ofLine (line : CommandLine) (tree : FileTree) (environment : List (String × String))
    (input : String) (uids : UidSupply) : Completion :=
  let ran := (line.run uids).run (.ofTree tree environment input)
  match ran.outcome with
  | .error error => { exitCode := 1, error := some error, tree, events := ran.events }
  | .ok (exitCode, output) =>
    let (tree, written) := output.deliver tree
    let events := ran.events ++ written.events
    match written.outcome with
    | .error error => { exitCode := 1, error := some error, tree, events }
    | .ok stdout => { exitCode, stdout, tree, events }

/-- The program in a file tree. -/
def perform (arguments : List String) (tree : FileTree) (environment : List (String × String))
    (input : String) (uids : UidSupply) : Completion ⊕ Refusal :=
  match CommandLine.ofArguments arguments with
  | .error refusal => .inr refusal
  | .ok line => .inl (ofLine line tree environment input uids)

/-- What is written on the standard error output. -/
def stderr (completion : Completion) : String :=
  match completion.error with
  | some error => ErrorText.ofChain error.message error.causes ++ "\n"
  | none => ""

end Completion
end AccessReport
