import AccessReport.Registry.Guidance
import AccessReport.Registry.Rules
import AccessReport.Registry.Suppression
/-!
# Registries

Everything that decoration looks up, compiled once from a configuration: rules first, then
guidance, so the first problem of the rules is reported before any of the links.
-/
namespace AccessReport

structure Registries where
  rules : RuleRegistry
  guidance : GuidanceRegistry
  suppression : SuppressionList
deriving DecidableEq, Repr

namespace Registries

/-- Without a configuration the engine's texts stay. -/
def empty : Registries where
  rules := .empty
  guidance := .empty
  suppression := .builtIn

/-- The registries of a configuration (`compile_registries`). -/
def compile (config : Config) : Except RegistryError Registries := do
  let rules ← RuleRegistry.compile config.rules
  let guidance ← GuidanceRegistry.compile config.rules config.links
  pure { rules, guidance, suppression := .withAdditional config.suppression.messages }

/-- The address of help for a rule: the configured one, else the engine's (`get_help_url`). -/
def helpUrl (rules : Option RuleRegistry) (ruleId engineUrl : String) : String :=
  ((rules.bind (·.get? ruleId)).bind (·.helpUrl)).getD engineUrl

end Registries
end AccessReport
