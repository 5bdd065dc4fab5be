import AccessReport.Cards.Basic
/-!
# Events

What the program tells about its work while it runs, besides its output. An event has a level and
a text; which levels are shown is up to who watches.
-/
namespace AccessReport

inductive Level where
  | debug
  | info
deriving DecidableEq, Repr

def Level.name : Level → String
  | .debug => "DEBUG"
  | .info => "INFO"

inductive Event where
  | loggingInitialized (level : String)
  | builtInRules
  | loadingEffective (path : String)
  | loadedConfig (rules links : Nat)
  | loadingFile (path : String) (depth : Nat)
  | resolvingInclude (written base : String)
  | expandedVariable (name : String)
  | defaultedVariable (name : String)
  | validatingConfig
  | validatingFile (path : String)
  | validatingRule (ruleId : String)
  | droppedRule (bucket : Bucket) (ruleId : String)
  | compiled (rules guidance messages : Nat)
  | converted (mode : ConversionMode) (rules results : Nat)
  | counted (counts : CardCounts)
  | decorated (lengths : List Nat)
  | wrote (path : String)
deriving Repr

namespace Event

def level : Event → Level
  | loadingEffective _ | validatingConfig | counted _ | decorated _ | wrote _ => .info
  | _ => .debug

def message : Event → String
  | loggingInitialized level => s!"Logging initialized at level: {level}"
  | builtInRules => "No config file found, using built-in rules"
  | loadingEffective path => s!"Loading config from: {path}"
  | loadedConfig rules links => s!"Loaded {rules} rule(s) and {links} link(s) from config"
  | loadingFile path depth => s!"Loading config from '{path}' (depth {depth})"
  | resolvingInclude written base => s!"Resolving include '{written}' relative to '{base}'"
  | expandedVariable name => "Expanded env var $\x7b" ++ name ++ "\x7d"
  | defaultedVariable name => "Env var $\x7b" ++ name ++ "\x7d not set, using default"
  | validatingConfig => "Validating configuration file"
  | validatingFile path => s!"Loading config from: {path}"
  | validatingRule ruleId => s!"Validating rule: {ruleId}"
  | droppedRule bucket ruleId => s!"dropping rule '{ruleId}' from {bucket.name}: no nodes left"
  | compiled rules guidance messages =>
    s!"compiled {rules} rules, {guidance} guidance entries, {messages} suppressed messages"
  | converted mode rules results =>
    s!"{mode.name} conversion: {rules} rules, {results} results"
  | counted counts =>
    s!"cards: {counts.failRules} fail ({counts.failInstances} instances), "
      ++ s!"{counts.unknownRules} unknown ({counts.unknownInstances} instances), "
      ++ s!"{counts.passRules} pass, {counts.inapplicableRules} inapplicable"
  | decorated lengths =>
    "decorated " ++ ", ".intercalate
      ((lengths.zip Bucket.all).map fun bucket => s!"{bucket.1} {bucket.2.name}")
  | wrote path => s!"Wrote {path}"

/-- The event as one line. -/
def text (event : Event) : String := event.level.name ++ " " ++ event.message

end Event
end AccessReport
