import AccessReport.Config.Basic
import AccessReport.Toml.Printer
/-!
# Writing configurations

A configuration as a TOML text. Rules and links are always written, as empty lists if there are
none; so are the tables of the defaults and of suppression, even without a key.
-/
namespace AccessReport

open Toml (Plain Section)

/-- A key that is written only when there is a text. -/
def Toml.keyIfSome (key : String) : Option String → List (String × Plain)
  | some value => [(key, .text value)]
  | none => []

/-- A key that is written only when there are texts. -/
def Toml.keyIfAny (key : String) : List String → List (String × Plain)
  | [] => []
  | values => [(key, .texts values)]

open Toml (keyIfSome keyIfAny)

def Defaults.toSection (defaults : Defaults) : Section where
  header := .table ["defaults"]
  keys := keyIfSome "title" defaults.title ++ keyIfSome "mode" (defaults.mode.map (·.name))

def CheckConfig.toSection (check : CheckConfig) : Section where
  header := .element ["rule", "check"]
  keys := [("id", .text check.id)] ++ keyIfSome "pass_message" check.passMessage
    ++ keyIfSome "fail_message" check.failMessage

def RuleConfig.toSection (rule : RuleConfig) : Section where
  header := .element ["rule"]
  keys := [("id", .text rule.id)] ++ keyIfSome "description" rule.description
    ++ keyIfSome "help" rule.help ++ keyIfSome "help_url" rule.helpUrl
    ++ keyIfSome "decorate_node" (rule.decorator.map (·.name))
    ++ [("how_to_check", .flag rule.howToCheck)] ++ keyIfAny "guidance" rule.guidance
    ++ [("best_practice", .flag rule.bestPractice)]

/-- A rule and its checks. -/
def RuleConfig.toSections (rule : RuleConfig) : List Section :=
  rule.toSection :: rule.checks.map (·.toSection)

def LinkTagConfig.toSection (tag : LinkTagConfig) : Section where
  header := .element ["link", "tags"]
  keys := [("id", .text tag.id), ("display_text", .text tag.displayText)]

def LinkConfig.toSection (link : LinkConfig) : Section where
  header := .element ["link"]
  keys := [("id", .text link.id), ("text", .text link.text), ("href", .text link.href)]

/-- A link and its tags. -/
def LinkConfig.toSections (link : LinkConfig) : List Section :=
  link.toSection :: link.tags.map (·.toSection)

def SuppressionConfig.toSection (suppression : SuppressionConfig) : Section where
  header := .table ["suppression"]
  keys := keyIfAny "messages" suppression.messages

/-- The key of an empty list. -/
def Toml.emptyList {α : Type} (key : String) (items : List α) : List (String × Plain) :=
  if items.isEmpty then [(key, .texts [])] else []

/-- The configuration as a TOML text. -/
def Config.toToml (config : Config) : String :=
  Toml.write
    (keyIfAny "includes" config.includes ++ Toml.emptyList "rule" config.rules
      ++ Toml.emptyList "link" config.links)
    (config.defaults.toSection :: config.rules.flatMap (·.toSections)
      ++ config.links.flatMap (·.toSections) ++ [config.suppression.toSection])

end AccessReport
