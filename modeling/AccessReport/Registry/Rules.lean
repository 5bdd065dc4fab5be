import AccessReport.Config.Basic
import AccessReport.Registry.Error
/-!
# The registry of rules

The configured rules, compiled so that the texts of a rule and the messages of its checks can be
looked up by id. An id that is not found is never an error: the engine's own text stays.

Compilation stops at the first problem. Within a check the message for passing comes first, and a
check that is defined twice is noticed after its templates; a rule that is defined twice after
its checks.
-/
namespace AccessReport

/-- The messages of a check. -/
structure CompiledCheck where
  id : String
  pass : Option Template
  fail : Option Template
deriving DecidableEq, Repr

/-- The configured message for the outcome and the data of a check. -/
def CompiledCheck.message? (compiled : CompiledCheck) (result : Bool) (data : Json) :
    Option String :=
  (if result then compiled.pass else compiled.fail).map (·.render data)

structure CompiledRule where
  id : String
  description : Option String
  help : Option String
  helpUrl : Option String
  decorator : Option NodeDecorator
  howToCheck : Bool
  checks : List CompiledCheck
deriving DecidableEq, Repr

def CompiledRule.check? (rule : CompiledRule) (checkId : String) : Option CompiledCheck :=
  rule.checks.find? (·.id == checkId)

/-- Compiled rules with different ids. -/
structure RuleRegistry where
  rules : List CompiledRule
deriving DecidableEq, Repr

namespace RuleRegistry

def empty : RuleRegistry := ⟨[]⟩

def get? (registry : RuleRegistry) (ruleId : String) : Option CompiledRule :=
  registry.rules.find? (·.id == ruleId)

def size (registry : RuleRegistry) : Nat := registry.rules.length

def isEmpty (registry : RuleRegistry) : Bool := registry.rules.isEmpty

/-- Whether there are instructions for checking the rule by hand (`has_how_to_check`). -/
def hasHowToCheck (registry : RuleRegistry) (ruleId : String) : Bool :=
  (registry.get? ruleId).any (·.howToCheck)

/-! ## Compilation -/

/-- The template of a message that may be missing (`compile_template`). -/
def compileTemplate (ruleId checkId : String) :
    Option String → Except RegistryError (Option Template)
  | none => .ok none
  | some text => match Template.parse text with
    | .ok template => .ok (some template)
    | .error cause => .error (.invalidTemplate ruleId checkId text cause)

/-- The compiled checks with one more. -/
def addCheck (ruleId : String) (checks : List CompiledCheck) (config : CheckConfig) :
    Except RegistryError (List CompiledCheck) := do
  let pass ← compileTemplate ruleId config.id config.passMessage
  let fail ← compileTemplate ruleId config.id config.failMessage
  if checks.any (·.id == config.id) then throw (.duplicateCheck ruleId config.id)
  pure (checks ++ [{ id := config.id, pass, fail }])

def compileRule (config : RuleConfig) : Except RegistryError CompiledRule := do
  let checks ← config.checks.foldlM (addCheck config.id) []
  pure {
    id := config.id
    description := config.description
    help := config.help
    helpUrl := config.helpUrl
    decorator := config.decorator
    howToCheck := config.howToCheck
    checks }

/-- The compiled rules with one more. -/
def addRule (rules : List CompiledRule) (config : RuleConfig) :
    Except RegistryError (List CompiledRule) := do
  let rule ← compileRule config
  if rules.any (·.id == config.id) then throw (.duplicateRule config.id)
  pure (rules ++ [rule])

/-- The registry of configured rules (`compile_rule_registry`). -/
def compile (configs : List RuleConfig) : Except RegistryError RuleRegistry := do
  let rules ← configs.foldlM addRule []
  pure ⟨rules⟩

end RuleRegistry
end AccessReport
