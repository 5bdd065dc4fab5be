import AccessReport.Command.Arguments
import AccessReport.Config.Loading
/-!
# Command lines

The commands of the program with their options, and how they are read from arguments. The options
of every command may also stand before it; where an option is given in both places the value
behind the command counts.
-/
namespace AccessReport

open Arguments

/-- The options of the commands that turn an engine result into something. -/
structure ScanOptions where
  /-- A hyphen stands for the standard input. -/
  input : String
  title : Option String := none
  out : Option String := none
deriving DecidableEq, Repr

inductive RulesFormat where
  | toml
  | json
deriving DecidableEq, Repr

inductive ValidateFormat where
  | text
  | json
deriving DecidableEq, Repr

inductive Command where
  | decorate (options : ScanOptions)
  | unify (options : ScanOptions) (needsReview : Bool)
  | cards (options : ScanOptions) (needsReview : Bool) (selection : Option String)
  | rules (format : RulesFormat)
  | explain (ruleId : String)
  | validate (strict : Bool) (format : ValidateFormat)
deriving DecidableEq, Repr

structure CommandLine where
  source : ConfigSource := {}
  verbose : Bool := false
  debug : Bool := false
  command : Command
deriving DecidableEq, Repr

namespace CommandLine

/-- The name of the least urgent level of events that is shown (`init_logging`). -/
def logLevel (line : CommandLine) : String :=
  if line.debug then "debug" else if line.verbose then "info" else "warn"

/-! ## Grammars -/

def isPath (value : String) : Bool := !value.isEmpty

def globalSwitches : List Switch := [
  helpSwitch,
  { name := "config", effect := .value isPath },
  { name := "no-default-rules", effect := .flag },
  { name := "verbose", letter := some 'v', effect := .flag },
  { name := "debug", effect := .flag }]

def scanSwitches : List Switch := [
  { name := "input", effect := .value isPath },
  { name := "title", effect := .value fun _ => true },
  { name := "out", effect := .value isPath }]

def needsReviewSwitch : Switch := { name := "needs-review", effect := .flag }

def formatSwitch (names : List String) : Switch :=
  { name := "format", effect := .value names.contains }

/-- The options of each command. -/
def grammarOf : String → Grammar
  | "decorate" => { switches := globalSwitches ++ scanSwitches }
  | "unify" => { switches := globalSwitches ++ scanSwitches ++ [needsReviewSwitch] }
  | "cards" => {
      switches := globalSwitches ++ scanSwitches
        ++ [needsReviewSwitch, { name := "selection", effect := .value isPath }] }
  | "rules" => { switches := globalSwitches ++ [formatSwitch ["toml", "json"]] }
  | "explain" => { switches := globalSwitches, plain := 1 }
  | "validate" => {
      switches := globalSwitches
        ++ [{ name := "strict", effect := .flag }, formatSwitch ["text", "json"]] }
  | _ => { switches := globalSwitches }

def commandNames : List String := ["decorate", "unify", "cards", "rules", "explain", "validate"]

def grammar : Grammar := { switches := globalSwitches, commands := commandNames ++ ["help"] }

/-! ## Reading -/

def scanOptions? (given : Given) : Option ScanOptions := do
  pure { input := ← given.value? "input", title := given.value? "title", out := given.value? "out" }

def command? (name : String) (given : Given) : Option Command :=
  let json := given.value? "format" == some "json"
  match name with
  | "decorate" => do pure (.decorate (← scanOptions? given))
  | "unify" => do pure (.unify (← scanOptions? given) (given.has "needs-review"))
  | "cards" => do
    pure (.cards (← scanOptions? given) (given.has "needs-review") (given.value? "selection"))
  | "rules" => some (.rules (if json then .json else .toml))
  | "explain" => do pure (.explain (← given.plain.head?))
  | "validate" => some (.validate (given.has "strict") (if json then .json else .text))
  | _ => none

/-- The command line of options before and behind a command. -/
def ofGiven (before behind : Given) (command : Command) : CommandLine where
  source := {
    path := (behind.value? "config").or (before.value? "config")
    noDefaults := before.has "no-default-rules" || behind.has "no-default-rules" }
  verbose := before.has "verbose" || behind.has "verbose"
  debug := before.has "debug" || behind.has "debug"
  command := command

def ofArguments (arguments : List String) : Except Refusal CommandLine := do
  match ← read grammar {} arguments with
  | (_, none) => throw .fault
  | (before, some (name, rest)) =>
    if name = "help" then throw (helpRefusal (commandNames ++ ["help"]) rest)
    else
      let behind ← readAll (grammarOf name) rest
      match command? name behind with
      | none => throw .fault
      | some command => pure (ofGiven (← settle before) behind command)

end CommandLine
end AccessReport
