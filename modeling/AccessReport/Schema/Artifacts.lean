import AccessReport.Cards.Basic
import AccessReport.Config.Basic
import AccessReport.Schema.Basic
/-!
# Schemas of what is read and written

The schemas of configuration files, of scan results, of the export and of cards, and of the
selection that cards are made with.
-/
namespace AccessReport.Schema

def falseByDefault (name : String) (description : Option String := none) : Field × Schema :=
  defaulted name .flag (.bool false) description

def emptyTextByDefault (name : String) : Field × Schema := defaulted name .text (.string "")

def emptyListByDefault (name : String) (items : Schema) (description : Option String := none) :
    Field × Schema :=
  defaulted name (.listOf items) (.array []) description

def variantsOf (names : List String) : List Variant := names.map fun name => { name }

/-! ## Scan results -/

def checkResult : Schema :=
  .record "CheckResult" "One atomic check instance belonging to a node." [
    required "id" .text,
    emptyTextByDefault "message",
    defaulted "data" .any .null,
    falseByDefault "result"]

def nodeResult : Schema :=
  .record "NodeResult" "One DOM element a rule was evaluated against." [
    emptyListByDefault "target" .text
      "CSS-selector path segments (one per frame / shadow boundary).",
    emptyTextByDefault "html",
    nullable "snippet" .text "Display snippet; set by node decorators, falls back to `html`.",
    nullable "failureSummary" .text,
    emptyListByDefault "any" checkResult,
    emptyListByDefault "all" checkResult,
    emptyListByDefault "none" checkResult]

def guidanceTag : Schema :=
  .record "GuidanceTag" none [required "id" .text, required "displayText" .text]

def guidanceLink : Schema :=
  .record "GuidanceLink" none [
    required "text" .text,
    required "href" .text,
    nullable "tags" (.listOf guidanceTag)]

def ruleResult : Schema :=
  .record "RuleResult" "One rule's outcome within a single bucket." [
    required "id" .text,
    emptyTextByDefault "description",
    emptyTextByDefault "help",
    emptyTextByDefault "helpUrl",
    emptyListByDefault "nodes" nodeResult,
    nullable "guidanceLinks" (.listOf guidanceLink)
      "Attached during decoration. `None` means \"no guidance\", not an error."]

def scanResults : Schema :=
  .record "ScanResults" "Canonical, decorated snapshot of one scan." [
    required "passes" (.listOf ruleResult),
    required "violations" (.listOf ruleResult),
    required "incomplete" (.listOf ruleResult),
    required "inapplicable" (.listOf ruleResult),
    required "timestamp" .text,
    required "targetPageUrl" .text,
    required "targetPageTitle" .text]

/-! ## The export -/

def unifiedRule : Schema :=
  .record "UnifiedRule" none [
    required "id" .text,
    required "description" .text,
    required "url" .text,
    required "guidance" (.listOf guidanceLink)]

def resultStatus : Schema :=
  .choice "ResultStatus" none (variantsOf ["pass", "fail", "unknown"])

def identifiers : Schema :=
  .record "Identifiers" none [
    required "identifier" .text,
    required "conciseName" .text "Display convenience only; not unique.",
    required "css-selector" .text]

def descriptors : Schema := .record "Descriptors" none [required "snippet" .text]

def howToFix : Schema :=
  .record "HowToFix"
    "Fix instructions: the node's check messages, grouped as the engine grouped them." [
    required "any" (.listOf .text),
    required "none" (.listOf .text),
    required "all" (.listOf .text)]

def resolution : Schema :=
  .record "Resolution" "Status-dependent resolution payload." [
    nullable "how-to-fix-web" howToFix,
    nullable "howToFixSummary" .text,
    nullable "how-to-check-web" .text]

def unifiedResultFields : List (Field × Schema) := [
  required "uid" .text,
  required "status" resultStatus,
  required "ruleId" .text,
  required "identifiers" identifiers,
  required "descriptors" descriptors,
  required "resolution" resolution]

def unifiedResult : Schema := .record "UnifiedResult" none unifiedResultFields

def toolInfo : Schema :=
  .record "ToolInfo" none [required "name" .text, required "version" .text]

def targetAppInfo : Schema :=
  .record "TargetAppInfo" none [required "name" .text, required "url" .text]

def unifiedScanResult : Schema :=
  .record "UnifiedScanResult"
    "Export artifact combining unified rules and results for one scan." [
    required "schema" .text,
    required "toolInfo" toolInfo,
    required "targetAppInfo" targetAppInfo,
    required "timestamp" .text,
    required "rules" (.listOf unifiedRule),
    required "results" (.listOf unifiedResult)]

/-! ## Cards -/

def highlightStatus : Schema :=
  .choice "HighlightStatus" none (variantsOf ["visible", "hidden", "unavailable"])

def cardStatus : Schema :=
  .choice "CardRuleResultStatus" none (variantsOf ["pass", "fail", "unknown", "inapplicable"])

def cardResultFields : List (Field × Schema) :=
  unifiedResultFields ++ [
    required "isSelected" .flag,
    nullable "highlightStatus" highlightStatus]

def cardResult : Schema :=
  .record "CardResult" "A unified result extended with per-render UI state." cardResultFields

def ruleCard : Schema :=
  .record "CardRuleResult" none [
    required "id" .text,
    required "status" cardStatus,
    required "nodes" (.listOf cardResult),
    required "description" .text,
    required "url" .text,
    required "guidance" (.listOf guidanceLink),
    required "isExpanded" .flag]

def cardsByStatus : Schema :=
  .record "CardsByStatus" none [
    required "pass" (.listOf ruleCard),
    required "fail" (.listOf ruleCard),
    required "inapplicable" (.listOf ruleCard),
    required "unknown" (.listOf ruleCard)]

def cardsView : Schema :=
  .record "CardsViewModel" none [
    required "cards" cardsByStatus,
    required "visualHelperEnabled" .flag,
    required "allCardsCollapsed" .flag]

def selection : Schema :=
  .record "CardSelectionViewData"
    "Transient UI state supplied by an external store. Read-only to the pipeline." [
    emptyListByDefault "selectedResultUids" .text,
    emptyListByDefault "expandedRuleIds" .text,
    falseByDefault "visualHelperEnabled",
    defaulted "resultsHighlightStatus" (.mapOf highlightStatus) (.object [])]

/-! ## Configurations -/

def conversionMode : Schema :=
  .choice "ConversionMode" "Which unified conversion to run."
    (variantsOf ["automated", "needs_review"])

def nodeDecorator : Schema :=
  .choice "NodeDecorator" "Built-in node decoration hooks a rule can opt into." [
    { name := "link-summary"
      description := "Snippet from the link's accessible name and URL." },
    { name := "image-summary"
      description := "Snippet from the image's type and accessible name." }]

def defaults : Schema :=
  .record "Defaults" none [
    nullable "title" .text "Page title used when the caller supplies none.",
    nullable "mode" conversionMode]

def checkConfig : Schema :=
  .record "CheckConfig" none [
    required "id" .text,
    nullable "pass_message" .text
      "Template; `\x7bdata\x7d` / `\x7bdata.field\x7d` are filled from the check's data.",
    nullable "fail_message" .text]

def ruleConfig : Schema :=
  .record "RuleConfig" none [
    required "id" .text,
    nullable "description" .text,
    nullable "help" .text,
    nullable "help_url" .text "Overrides the engine-provided help URL.",
    nullable "decorate_node" nodeDecorator,
    falseByDefault "how_to_check" "The rule has manual \"how to check\" guidance.",
    omissible "guidance" (.listOf .text) "Keys into the `[[link]]` catalog.",
    falseByDefault "best_practice" "Append the synthetic \"Best Practice\" link.",
    omissible "check" (.listOf checkConfig)]

def linkTagConfig : Schema :=
  .record "LinkTagConfig" none [required "id" .text, required "display_text" .text]

def linkConfig : Schema :=
  .record "LinkConfig" none [
    required "id" .text,
    required "text" .text,
    required "href" .text,
    omissible "tags" (.listOf linkTagConfig)]

def suppressionConfig : Schema :=
  .record "SuppressionConfig" none [
    omissible "messages" (.listOf .text)
      "Check messages to drop from `any` checks (case-insensitive, trimmed)."]

def config : Schema :=
  .record "ConfigFile" "The on-disk configuration file." [
    omissible "includes" (.listOf .text)
      ("Include other config files. Paths are relative to this config file's directory. "
        ++ "Rules and links are merged: later definitions override earlier ones by ID."),
    defaulted "defaults" defaults (.object []),
    emptyListByDefault "rule" ruleConfig,
    emptyListByDefault "link" linkConfig,
    defaulted "suppression" suppressionConfig (.object [])]

end AccessReport.Schema
