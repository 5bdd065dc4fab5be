import AccessReport.Registry.Rules
import AccessReport.Text.Parts
import AccessReport.Unified.Basic
/-!
# Unified results of a scan

Every node of the buckets that a conversion takes becomes one result. An automated conversion
takes violations as failures, then passes; a conversion for manual review takes violations, then
incomplete results, all as unknown.

**Uids.** Results get their ids from a supply. A conversion goes through rules and nodes and draws
one id whenever it has made a result (`convert_rules`). A converter keeps count of how many it has
drawn, so that several conversions never share one.
-/
namespace AccessReport

open Text

/-- A source of ids: the one that is drawn first, second, and so on. -/
abbrev UidSupply := Nat → String

/-- The names of an element derived from its selector path (`identifiers_for_target`). The concise
name is what follows the last child combinator of the last segment. -/
def Identifiers.ofTarget (target : List String) : Identifiers :=
  let selector := String.ofList (joinWith [';'] (target.map String.toList))
  let last := (target.getLast?.getD "").toList
  { identifier := selector
    conciseName := String.ofList ((afterLast? [' ', '>', ' '] last).getD last)
    cssSelector := selector }

namespace ConversionMode

/-- The buckets that a conversion takes, with the status of their results
(`automated_checks_conversion`, `needs_review_conversion`). -/
def sources : ConversionMode → List (Bucket × ResultStatus)
  | .automated => [(.violations, .fail), (.passes, .pass)]
  | .needsReview => [(.violations, .unknown), (.incomplete, .unknown)]

end ConversionMode

namespace Resolution

/-- The messages of checks, in their order (`messages`). -/
def messages (checks : List Check) : List String := checks.map (·.message)

/-- How to resolve a result: instructions for a fix where the outcome is known, else the rule to
look up for a manual check (`resolution`). -/
def ofNode (rules : RuleRegistry) (status : ResultStatus) (ruleId : String) (node : Node) :
    Resolution :=
  match status with
  | .unknown => { howToCheck := some ruleId }
  | .pass | .fail =>
    { howToFix := some {
        anyMessages := messages node.anyChecks
        noneMessages := messages node.noneChecks
        allMessages := messages node.allChecks }
      howToFixSummary := node.failureSummary
      howToCheck := if rules.hasHowToCheck ruleId then some ruleId else none }

end Resolution

/-- The result of one node. -/
def UnifiedResult.ofNode (rules : RuleRegistry) (uid : String) (status : ResultStatus)
    (rule : RuleResult) (node : Node) : UnifiedResult where
  uid := uid
  status := status
  ruleId := rule.id
  identifiers := .ofTarget node.target
  descriptors := { snippet := node.displaySnippet }
  resolution := .ofNode rules status rule.id node

/-- Converts scans with the rules of a registry and ids of a supply, of which some are drawn. -/
structure Converter where
  rules : RuleRegistry
  uids : UidSupply
  drawn : Nat := 0

/-- A node as it is taken by a conversion: with its status and its rule. -/
abbrev TakenNode := ResultStatus × RuleResult × Node

namespace Converter

/-- The result of a node, for which the next uid is drawn. -/
def emit (converter : Converter) (taken : TakenNode) : UnifiedResult × Converter :=
  (.ofNode converter.rules (converter.uids converter.drawn) taken.1 taken.2.1 taken.2.2,
    { converter with drawn := converter.drawn + 1 })

/-- One turn of the inner loop: the result of a node goes behind those that have been made. -/
def pushNode (made : List UnifiedResult × Converter) (taken : TakenNode) :
    List UnifiedResult × Converter :=
  let (result, next) := made.2.emit taken
  (made.1 ++ [result], next)

/-- The loops over the rules of a bucket and over their nodes. -/
def pushRules (status : ResultStatus) (rules : List RuleResult)
    (made : List UnifiedResult × Converter) : List UnifiedResult × Converter :=
  rules.foldl
    (fun made rule => rule.nodes.foldl (fun made node => pushNode made (status, rule, node)) made)
    made

/-- The results of one conversion, and the converter for the next (`convert_rules`). Without a scan
there are none. -/
def convert (converter : Converter) (mode : ConversionMode) :
    Option ScanResults → List UnifiedResult × Converter
  | none => ([], converter)
  | some scan =>
    mode.sources.foldl
      (fun made source => pushRules source.2 (scan.toBuckets.get source.1) made) ([], converter)

/-- The results of one conversion. -/
def results (converter : Converter) (mode : ConversionMode) (scan : ScanResults) :
    List UnifiedResult :=
  (converter.convert mode (some scan)).1

end Converter
end AccessReport
