import AccessReport.Unified.Basic
/-!
# The format of unified rules and results

Every field is required, except that a resolution leaves out what does not apply. Three names
have hyphens, the others are in camel case.

The reader of a result takes the form of an empty payload as an argument, since a result inside a
card is read from a part that was held back first.
-/
namespace AccessReport

open Document Json

def UnifiedRule.ofDocument? (document : Document) : Option UnifiedRule := do
  let fields ← document.record? ["id", "description", "url", "guidance"]
  pure {
    id := ← fields.required "id" text?
    description := ← fields.required "description" text?
    url := ← fields.required "url" text?
    guidance := ← fields.required "guidance" (list? GuidanceLink.ofDocument?) }

def UnifiedRule.toJson (rule : UnifiedRule) : Json :=
  .object [
    ("id", .string rule.id), ("description", .string rule.description), ("url", .string rule.url),
    ("guidance", .array (rule.guidance.map GuidanceLink.toJson))]

def ResultStatus.ofDocument? (empty : Payload) : Document → Option ResultStatus :=
  choice? empty ResultStatus.named

def Identifiers.ofDocument? (document : Document) : Option Identifiers := do
  let fields ← document.record? ["identifier", "conciseName", "css-selector"]
  pure {
    identifier := ← fields.required "identifier" text?
    conciseName := ← fields.required "conciseName" text?
    cssSelector := ← fields.required "css-selector" text? }

def Identifiers.toJson (identifiers : Identifiers) : Json :=
  .object [
    ("identifier", .string identifiers.identifier),
    ("conciseName", .string identifiers.conciseName),
    ("css-selector", .string identifiers.cssSelector)]

def Descriptors.ofDocument? (document : Document) : Option Descriptors := do
  let fields ← document.record? ["snippet"]
  pure { snippet := ← fields.required "snippet" text? }

def Descriptors.toJson (descriptors : Descriptors) : Json :=
  .object [("snippet", .string descriptors.snippet)]

def HowToFix.ofDocument? (document : Document) : Option HowToFix := do
  let fields ← document.record? ["any", "none", "all"]
  pure {
    anyMessages := ← fields.required "any" (list? text?)
    noneMessages := ← fields.required "none" (list? text?)
    allMessages := ← fields.required "all" (list? text?) }

def HowToFix.toJson (fix : HowToFix) : Json :=
  .object [
    ("any", strings fix.anyMessages), ("none", strings fix.noneMessages),
    ("all", strings fix.allMessages)]

def Resolution.ofDocument? (document : Document) : Option Resolution := do
  let fields ← document.record? ["how-to-fix-web", "howToFixSummary", "how-to-check-web"]
  pure {
    howToFix := ← fields.optional "how-to-fix-web" HowToFix.ofDocument?
    howToFixSummary := ← fields.optional "howToFixSummary" text?
    howToCheck := ← fields.optional "how-to-check-web" text? }

def Resolution.toJson (resolution : Resolution) : Json :=
  .object (
    memberIfSome "how-to-fix-web" HowToFix.toJson resolution.howToFix
    ++ memberIfSome "howToFixSummary" .string resolution.howToFixSummary
    ++ memberIfSome "how-to-check-web" .string resolution.howToCheck)

/-- The names of the fields of a result, in the declared order. -/
def UnifiedResult.fieldNames : List String :=
  ["uid", "status", "ruleId", "identifiers", "descriptors", "resolution"]

def UnifiedResult.ofFields? (empty : Payload) (fields : Fields) : Option UnifiedResult := do
  pure {
    uid := ← fields.required "uid" text?
    status := ← fields.required "status" (ResultStatus.ofDocument? empty)
    ruleId := ← fields.required "ruleId" text?
    identifiers := ← fields.required "identifiers" Identifiers.ofDocument?
    descriptors := ← fields.required "descriptors" Descriptors.ofDocument?
    resolution := ← fields.required "resolution" Resolution.ofDocument? }

def UnifiedResult.ofDocument? (document : Document) : Option UnifiedResult := do
  ofFields? nullPayload (← document.record? fieldNames)

/-- The members of a written result. -/
def UnifiedResult.members (result : UnifiedResult) : List (String × Json) :=
  [("uid", .string result.uid), ("status", .string result.status.name),
    ("ruleId", .string result.ruleId), ("identifiers", result.identifiers.toJson),
    ("descriptors", result.descriptors.toJson), ("resolution", result.resolution.toJson)]

def UnifiedResult.toJson (result : UnifiedResult) : Json := .object result.members

def ToolInfo.ofDocument? (document : Document) : Option ToolInfo := do
  let fields ← document.record? ["name", "version"]
  pure {
    name := ← fields.required "name" text?
    version := ← fields.required "version" text? }

def ToolInfo.toJson (info : ToolInfo) : Json :=
  .object [("name", .string info.name), ("version", .string info.version)]

def TargetAppInfo.ofDocument? (document : Document) : Option TargetAppInfo := do
  let fields ← document.record? ["name", "url"]
  pure {
    name := ← fields.required "name" text?
    url := ← fields.required "url" text? }

def TargetAppInfo.toJson (info : TargetAppInfo) : Json :=
  .object [("name", .string info.name), ("url", .string info.url)]

def UnifiedScanResult.ofDocument? (document : Document) : Option UnifiedScanResult := do
  let fields ← document.record?
    ["schema", "toolInfo", "targetAppInfo", "timestamp", "rules", "results"]
  pure {
    schema := ← fields.required "schema" text?
    toolInfo := ← fields.required "toolInfo" ToolInfo.ofDocument?
    targetAppInfo := ← fields.required "targetAppInfo" TargetAppInfo.ofDocument?
    timestamp := ← fields.required "timestamp" text?
    rules := ← fields.required "rules" (list? UnifiedRule.ofDocument?)
    results := ← fields.required "results" (list? UnifiedResult.ofDocument?) }

def UnifiedScanResult.toJson (scan : UnifiedScanResult) : Json :=
  .object [
    ("schema", .string scan.schema), ("toolInfo", scan.toolInfo.toJson),
    ("targetAppInfo", scan.targetAppInfo.toJson), ("timestamp", .string scan.timestamp),
    ("rules", .array (scan.rules.map UnifiedRule.toJson)),
    ("results", .array (scan.results.map UnifiedResult.toJson))]

def ConversionMode.ofDocument? (empty : Payload) : Document → Option ConversionMode :=
  choice? empty ConversionMode.named

end AccessReport
