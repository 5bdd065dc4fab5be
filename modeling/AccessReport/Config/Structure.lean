import AccessReport.Config.Basic
import AccessReport.Registry.Error
/-!
# Problems of a configuration

Everything that is wrong in one configuration, where compiling it stops at the first problem:
ids that are defined twice, keys of unknown links, and templates that cannot be read. A strict
check also warns of rules that say little.
-/
namespace AccessReport

inductive ConfigProblem where
  | duplicateLink (linkId : String)
  | duplicateRule (ruleId : String)
  | unknownLink (ruleId linkId : String)
  | duplicateCheck (ruleId checkId : String)
  | invalidTemplate (ruleId checkId field template : String) (cause : TemplateError)
deriving DecidableEq, Repr

def ConfigProblem.message : ConfigProblem → String
  | duplicateLink linkId => s!"Link '{linkId}': duplicate link ID"
  | duplicateRule ruleId => s!"Rule '{ruleId}': duplicate rule ID"
  | unknownLink ruleId linkId => s!"Rule '{ruleId}': unknown guidance link '{linkId}'"
  | duplicateCheck ruleId checkId => s!"Rule '{ruleId}': duplicate check ID '{checkId}'"
  | invalidTemplate ruleId checkId field template cause =>
    s!"Rule '{ruleId}': check '{checkId}' has invalid {field} '{template}': " ++ cause.message

inductive ConfigWarning where
  | noHelp (ruleId : String)
  | noChecks (ruleId : String)
deriving DecidableEq, Repr

def ConfigWarning.message : ConfigWarning → String
  | noHelp ruleId => s!"Rule '{ruleId}': no help text provided"
  | noChecks ruleId => s!"Rule '{ruleId}': no checks defined (engine messages are used as-is)"

namespace ConfigProblem

/-- The problems of items one after the other, each with the ids that came before it. -/
def eachAfter {α : Type} (id : α → String) (problems : List String → α → List ConfigProblem) :
    List String → List α → List ConfigProblem
  | _, [] => []
  | seen, item :: rest => problems seen item ++ eachAfter id problems (id item :: seen) rest

/-- A problem if the id was seen before. -/
def repeated (problem : ConfigProblem) (id : String) (seen : List String) : List ConfigProblem :=
  if seen.contains id then [problem] else []

def ofLink (seen : List String) (link : LinkConfig) : List ConfigProblem :=
  repeated (.duplicateLink link.id) link.id seen

def ofTemplate (ruleId checkId field : String) : Option String → List ConfigProblem
  | none => []
  | some text => match Template.parse text with
    | .ok _ => []
    | .error cause => [.invalidTemplate ruleId checkId field text cause]

def ofCheck (ruleId : String) (seen : List String) (check : CheckConfig) : List ConfigProblem :=
  repeated (.duplicateCheck ruleId check.id) check.id seen
    ++ ofTemplate ruleId check.id "pass_message" check.passMessage
    ++ ofTemplate ruleId check.id "fail_message" check.failMessage

def ofKey (knownLinks : List String) (ruleId key : String) : List ConfigProblem :=
  if knownLinks.contains key then [] else [.unknownLink ruleId key]

def ofRule (knownLinks : List String) (seen : List String) (rule : RuleConfig) :
    List ConfigProblem :=
  repeated (.duplicateRule rule.id) rule.id seen
    ++ rule.guidance.flatMap (ofKey knownLinks rule.id)
    ++ eachAfter (·.id) (ofCheck rule.id) [] rule.checks

/-- All problems: those of links first, then those of each rule (`check_config_structure`). -/
def ofConfig (knownLinks : List String) (config : Config) : List ConfigProblem :=
  eachAfter (·.id) ofLink [] config.links
    ++ eachAfter (·.id) (ofRule knownLinks) [] config.rules

end ConfigProblem

namespace ConfigWarning

def ofRule (rule : RuleConfig) : List ConfigWarning :=
  (if rule.help.isNone then [noHelp rule.id] else [])
    ++ if rule.checks.isEmpty then [noChecks rule.id] else []

/-- The warnings of a strict check. -/
def ofConfig (config : Config) : List ConfigWarning := config.rules.flatMap ofRule

end ConfigWarning
end AccessReport
