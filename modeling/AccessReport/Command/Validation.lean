import AccessReport.Command.Error
import AccessReport.Config.Structure
import AccessReport.Json.Printer
import AccessReport.Registry.Basic
/-!
# Validating a configuration file

Everything that is wrong with one configuration file. If its structure is sound, whatever stops
the effective configuration from being loaded or compiled is an error too.

Keys of links are looked up in the effective configuration. If that cannot be loaded, they are
looked up in the file itself, and in the built-in catalog unless that is left out.

Results:
* `exitCode_eq_zero`: the exit code tells whether there are errors.
-/
namespace AccessReport

/-- What validating a file found. -/
structure Validation where
  path : String
  rules : Nat
  links : Nat
  errors : List String
  warnings : List String
deriving DecidableEq, Repr

namespace Validation

/-! ## Finding problems -/

/-- The ids of the links that a key may name. -/
def knownLinks (noDefaults : Bool) (file : Config) (effective : Except ConfigError Config) :
    List String :=
  let links := match effective with
    | .ok config => config.links
    | .error _ => if noDefaults then file.links else BuiltIn.config.links ++ file.links
  links.map (·.id)

/-- What stops the effective configuration from being used. -/
def loadErrors : Except ConfigError Config → List String
  | .ok config => match Registries.compile config with
    | .ok _ => []
    | .error cause => ["Configuration compile error: " ++ cause.message]
  | .error cause => ["Configuration load error: " ++ ": ".intercalate cause.chain]

def of (noDefaults strict : Bool) (path : String) (file : Config)
    (effective : Except ConfigError Config) : Validation :=
  let problems := ConfigProblem.ofConfig (knownLinks noDefaults file effective) file
  { path
    rules := file.rules.length
    links := file.links.length
    errors := if problems.isEmpty then loadErrors effective else problems.map (·.message)
    warnings := if strict then (ConfigWarning.ofConfig file).map (·.message) else [] }

/-- Validates the file that a source names (`cmd_validate`). -/
def run (source : ConfigSource) (strict : Bool) : Inquiry CommandError Validation := do
  Inquiry.tell .validatingConfig
  match ← source.file?.mapError .config with
  | none => Inquiry.fail .noConfigFile
  | some path =>
    Inquiry.tell (.validatingFile path)
    let file ← (Loading.single path).mapError .config
    let effective ← Inquiry.attempt (ConfigSource.load { source with path := some path })
    Inquiry.tellAll (file.rules.map fun rule => .validatingRule rule.id)
    pure (of source.noDefaults strict path file effective)

/-! ## Showing them -/

def isValid (found : Validation) : Bool := found.errors.isEmpty

def exitCode (found : Validation) : Nat := if found.isValid then 0 else 1

theorem exitCode_eq_zero (found : Validation) : found.exitCode = 0 ↔ found.errors = [] := by
  cases h : found.errors <;> simp [exitCode, isValid, h]

def toJson (found : Validation) : Json := .object [
  ("errors", .strings found.errors),
  ("links_count", .integer found.links),
  ("path", .string found.path),
  ("rules_count", .integer found.rules),
  ("valid", .bool found.isValid),
  ("warnings", .strings found.warnings)]

/-- The texts with numbers from the given one on, a line each. -/
def numberedFrom : Nat → List String → List String
  | _, [] => []
  | number, text :: rest => s!"  {number}. {text}" :: numberedFrom (number + 1) rest

def lines (found : Validation) : List String :=
  [s!"Validating {found.path}...", ""]
    ++ (if found.warnings.isEmpty then []
      else s!"Warnings ({found.warnings.length}):" :: numberedFrom 1 found.warnings ++ [""])
    ++ if found.isValid then
      ["Configuration is valid!", s!"  {found.rules} rule(s) defined",
        s!"  {found.links} guidance link(s) defined"]
    else
      [s!"Configuration has {found.errors.length} error(s):", ""] ++ numberedFrom 1 found.errors

def text (found : Validation) : String := String.join (found.lines.map (· ++ "\n"))

end Validation
end AccessReport
