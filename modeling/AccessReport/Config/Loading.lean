import AccessReport.Config.BuiltIn
import AccessReport.Config.Expansion
import AccessReport.Config.Merge
import AccessReport.Config.Text
/-!
# Loading configurations

A configuration is read from a file, together with the files that it includes, and theirs
(`load_config_with_includes`). A file is laid over those that it includes, which are laid over each
other in the order in which they are listed. A file may be reached along several ways, but no file
may include itself, not even through others, and chains of files have a greatest length.

The loader keeps one set of the files that it is loading. A file is put in before its includes are
loaded and taken out behind them, so that a file that is met again was met on the way to itself.
-/
namespace AccessReport

inductive ConfigError where
  | unreadable (path : String) (cause : FileFault)
  | unparsable (path : String)
  | expansion (cause : ExpansionError)
  | tooDeep (path : String)
  | unlocatable (path : String) (cause : FileFault)
  | circular (path : String)
  | duplicateRule (ruleId path : String)
  | duplicateLink (linkId path : String)
  | includeMissing (path written : String)
deriving DecidableEq, Repr

namespace Loading

/-- How far below the first file a file may be included. -/
def maxDepth : Nat := 10

end Loading

namespace ConfigError

def message : ConfigError → String
  | unreadable path _ => s!"read config '{path}'"
  | unparsable path => s!"parse config '{path}'"
  | expansion cause => cause.message
  | tooDeep path =>
    s!"Include depth exceeded maximum of {Loading.maxDepth} levels at '{path}'"
  | unlocatable path _ => s!"canonicalize path '{path}'"
  | circular path => s!"Circular include detected: '{path}'"
  | duplicateRule ruleId path => s!"Rule '{ruleId}' is defined more than once in '{path}'"
  | duplicateLink linkId path => s!"Link '{linkId}' is defined more than once in '{path}'"
  | includeMissing path written =>
    s!"Included config file not found: '{path}' (resolved from '{written}')"

/-- The messages of the error and of what caused it, outermost first. -/
def chain (error : ConfigError) : List String :=
  error.message :: match error with
    | unreadable _ cause | unlocatable _ cause => [cause.message]
    | unparsable _ => ["the text is not the TOML of a configuration"]
    | _ => []

end ConfigError

namespace Loading

/-- The configuration in one file, as it stands there (`read_config_file`). -/
def single (path : String) : Inquiry ConfigError Config := do
  match ← Inquiry.read path with
  | .error cause => Inquiry.fail (.unreadable path cause)
  | .ok text =>
    let expanded ← (Expansion.expand text).mapError .expansion
    match Config.ofToml? expanded with
    | some config => pure config
    | none => Inquiry.fail (.unparsable path)

/-- The first id that came before (`first_duplicate`). -/
def firstRepeated : List String → Option String
  | ids => go [] ids
where
  go (seen : List String) : List String → Option String
    | [] => none
    | id :: rest => if seen.contains id then some id else go (id :: seen) rest

/-- Within one file each id is defined once (`reject_duplicate_ids`). -/
def rejectRepeated (path : String) (config : Config) : Except ConfigError Unit :=
  match firstRepeated (config.rules.map (·.id)), firstRepeated (config.links.map (·.id)) with
  | some ruleId, _ => .error (.duplicateRule ruleId path)
  | none, some linkId => .error (.duplicateLink linkId path)
  | none, none => .ok ()

/-- The directory from which the paths in a file start. -/
def baseOf (path : String) : String := (Path.parent? path).getD "."

/-- A computation that keeps the full paths of the files that are being loaded. -/
abbrev Visiting (α : Type) := StateT (List String) (Inquiry ConfigError) α

namespace Visiting

/-- An inquiry that has nothing to do with the files that are being loaded. -/
def ask {α : Type} (inquiry : Inquiry ConfigError α) : Visiting α := liftM inquiry

/-- Puts a file into the set; it must not be there. -/
def enter (path location : String) : Visiting Unit := do
  if (← get).contains location then ask (Inquiry.fail (.circular path))
  else modify fun visited => location :: visited

/-- Takes a file out again. -/
def leave (location : String) : Visiting Unit := modify fun visited => visited.erase location

end Visiting

/-- The configuration of a file with all that it includes (`load_config_recursive`). As many levels
are left as the number says. -/
def loadFrom : Nat → String → Visiting Config
  | 0, path => .ask (Inquiry.fail (.tooDeep path))
  | levels + 1, path => do
    match ← Visiting.ask (Inquiry.canonical path) with
    | .error cause => .ask (Inquiry.fail (.unlocatable path cause))
    | .ok location =>
      Visiting.enter path location
      Visiting.ask (Inquiry.tell (.loadingFile path (maxDepth - levels)))
      let config ← Visiting.ask (single path)
      Visiting.ask (Inquiry.ofExcept (rejectRepeated path config))
      if config.includes.isEmpty then
        Visiting.leave location
        pure config
      else
        let included ← config.includes.foldlM (fun (merged : Config) written => do
          let full := Path.join (baseOf path) written
          Visiting.ask (Inquiry.tell (.resolvingInclude written (baseOf path)))
          if ← Visiting.ask (Inquiry.exists? full) then
            pure (merged.merge (← loadFrom levels full))
          else .ask (Inquiry.fail (.includeMissing full written))) {}
        Visiting.leave location
        pure (included.merge config)

/-- The configuration of a file with all that it includes (`load_config_with_includes`). -/
def load (path : String) : Inquiry ConfigError Config := (loadFrom (maxDepth + 1) path).run' []

end Loading

/-! ## The effective configuration -/

/-- Where the configuration comes from. -/
structure ConfigSource where
  path : Option String := none
  /-- The built-in configuration is left out. -/
  noDefaults : Bool := false
deriving DecidableEq, Repr

namespace ConfigSource

/-- The file that is used without being named, if it exists. -/
def defaultFile : String := "a11ylens.toml"

/-- The file that is used. -/
def file? (source : ConfigSource) : Inquiry ConfigError (Option String) :=
  match source.path with
  | some path => pure (some path)
  | none => do pure (if ← Inquiry.exists? defaultFile then some defaultFile else none)

/-- The configuration of a file over the built-in one. -/
def loadFile (noDefaults : Bool) (path : String) : Inquiry ConfigError Config := do
  Inquiry.tell (.loadingEffective path)
  let config ← Loading.load path
  Inquiry.tell (.loadedConfig config.rules.length config.links.length)
  pure (if noDefaults then config else BuiltIn.config.merge config)

/-- The effective configuration (`load_config`). Without a file it is the built-in one. -/
def load (source : ConfigSource) : Inquiry ConfigError Config := do
  match ← source.file? with
  | some path => loadFile source.noDefaults path
  | none =>
    Inquiry.tell .builtInRules
    pure BuiltIn.config

end ConfigSource
end AccessReport
