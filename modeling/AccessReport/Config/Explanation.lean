import AccessReport.Config.Suggestion
import AccessReport.Registry.Basic
/-!
# Explaining a rule

What is configured for one rule, as a text to read.

Results:
* `explanation?_isSome`: exactly the configured rules are explained.
-/
namespace AccessReport

namespace Explanation

def engineText : String := "(engine message)"

def checkLines (check : CheckConfig) : List String :=
  [s!"  - {check.id}",
    "      pass: " ++ check.passMessage.getD engineText,
    "      fail: " ++ check.failMessage.getD engineText]

def linkLine (link : GuidanceLink) : String :=
  if link.isBestPractice then s!"  - {link.text}"
  else match (link.tags.getD []).map (·.displayText) with
    | [] => s!"  - {link.text} <{link.href}>"
    | tags => s!"  - {link.text} <{link.href}> [" ++ ", ".intercalate tags ++ "]"

/-- Lines under a heading, behind an empty line. -/
def headed (heading : String) (lines : List String) : List String := ["", heading] ++ lines

def lines (rule : RuleConfig) (links : Option (List GuidanceLink)) : List String :=
  [s!"Rule: {rule.id}"]
    ++ rule.description.toList.map ("Description: " ++ ·)
    ++ rule.help.toList.map ("Help: " ++ ·)
    ++ headed "Decoration:"
      (["  - Help URL: " ++ rule.helpUrl.getD "(engine provided)",
        "  - How to check: " ++ if rule.howToCheck then "yes" else "no"]
        ++ rule.decorator.toList.map fun decorator => s!"  - Node decorator: {decorator.name}")
    ++ (if rule.checks.isEmpty then []
      else headed "Checks:" (rule.checks.flatMap checkLines))
    ++ match links with
      | none => []
      | some links => headed "Guidance:" (links.map linkLine)

end Explanation

/-- What is configured for a rule (`format_rule_explanation`). -/
def RuleConfig.explanation (rule : RuleConfig) (registries : Registries) : String :=
  String.join ((Explanation.lines rule (registries.guidance.linksFor? rule.id)).map (· ++ "\n"))

namespace Config

/-- The first rule with the id. -/
def rule? (config : Config) (ruleId : String) : Option RuleConfig :=
  config.rules.find? (·.id == ruleId)

def explanation? (config : Config) (registries : Registries) (ruleId : String) : Option String :=
  (config.rule? ruleId).map (·.explanation registries)

theorem explanation?_isSome (config : Config) (registries : Registries) (ruleId : String) :
    (config.explanation? registries ruleId).isSome = true ↔
      ruleId ∈ config.rules.map (·.id) := by
  simp [explanation?, rule?]

/-- The ids of configured rules that may be meant by another one. -/
def suggestions (config : Config) (wanted : String) : List String :=
  Suggestion.suggestions wanted (config.rules.map (·.id))

end Config
end AccessReport
