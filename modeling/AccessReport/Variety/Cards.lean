import AccessReport.Cards.Basic
import AccessReport.Variety.Scans
/-!
# Varieties of exports and cards

Unified rules and results, and selections (`arb_selection`), that are made up at random. Some
results belong to a rule that is not among the rules.
-/
namespace AccessReport.Varieties

open Pattern Variety

def maxResults : Nat := 12

/-- The id of a rule that there never is. -/
def danglingRuleId : String := "dangling-rule"

def resultStatus : Variety := ofTexts (ResultStatus.all.map (·.name))

def highlightStatus : Variety := ofTexts (HighlightStatus.all.map (·.name))

def unifiedRuleOf (id : String) : Variety := record [
  certain "id" (exactly (.string id)),
  certain "description" (exactly (.string s!"{id} description")),
  certain "url" (exactly (.string s!"https://help.test/{id}")),
  certain "guidance" (exactly (.array []))]

/-- Rules with different ids (`arb_unified_rules`). -/
def unifiedRules : Variety := listOf 0 ruleIds.length (anyOf (ruleIds.map unifiedRuleOf))

/-- The uids that results can have. -/
def uids : List String := (List.range maxResults).map fun number => s!"uid-{number}"

def uid : Variety := ofTexts uids

/-- The segments of a selector in one text. -/
def selector : Pattern := sequence [
  segment, repeated 0 (maxTargets - 1) (sequence [.exactly ";", segment])]

/-- Results of some rules (`arb_unified_results`). -/
def unifiedResults (ids : List String) : Variety := listOf 0 maxResults (record [
  certain "uid" uid,
  certain "status" resultStatus,
  certain "ruleId" (ofTexts ids),
  certain "identifiers" (record [
    certain "identifier" (text selector),
    certain "conciseName" (text segment),
    certain "css-selector" (text selector)]),
  certain "descriptors" (record [certain "snippet" (exactly (.string "<div>"))]),
  certain "resolution" (exactly (.object []))])

/-- Rules, and results of them and of the rule that there never is
(`arb_unified_rules_and_results`). -/
def unifiedRulesAndResults : Variety :=
  listOf 2 2 (anyOf [unifiedRules, unifiedResults (ruleIds ++ [danglingRuleId])])

def selection : Variety := record [
  certain "selectedResultUids" (listOf 0 4 uid),
  certain "expandedRuleIds" (listOf 0 3 ruleId),
  certain "visualHelperEnabled" flag,
  certain "resultsHighlightStatus" (mapOf uids 0 4 highlightStatus)]

end AccessReport.Varieties
