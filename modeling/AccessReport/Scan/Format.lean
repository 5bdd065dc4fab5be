import AccessReport.Scan.Basic
/-!
# The format of scans

How the parts of a scan are read from documents and written as values. Engines differ in what
they add, so unknown members are ignored everywhere and most fields have defaults; the decorated
results, which this program writes itself, have to be complete.

Results:
* `ofDocument?_toJson`: a time that was written reads back.
-/
namespace AccessReport

open Document Json

/-! ## Checks, nodes and rule results -/

def Check.ofDocument? (document : Document) : Option Check := do
  let fields ← document.record? ["id", "message", "data", "result"]
  pure {
    id := ← fields.required "id" text?
    message := ← fields.defaulted "message" text? ""
    data := ← fields.defaulted "data" value? .null
    result := ← fields.defaulted "result" flag? false }

def Check.toJson (check : Check) : Json :=
  .object [
    ("id", .string check.id), ("message", .string check.message), ("data", check.data),
    ("result", .bool check.result)]

def Node.ofDocument? (document : Document) : Option Node := do
  let fields ← document.record?
    ["target", "html", "snippet", "failureSummary", "any", "all", "none"]
  let checks? := list? Check.ofDocument?
  pure {
    target := ← fields.defaulted "target" (list? text?) []
    html := ← fields.defaulted "html" text? ""
    snippet := ← fields.optional "snippet" text?
    failureSummary := ← fields.optional "failureSummary" text?
    anyChecks := ← fields.defaulted "any" checks? []
    allChecks := ← fields.defaulted "all" checks? []
    noneChecks := ← fields.defaulted "none" checks? [] }

def Node.toJson (node : Node) : Json :=
  .object (
    member "target" (strings node.target)
    ++ member "html" (.string node.html)
    ++ memberIfSome "snippet" .string node.snippet
    ++ memberIfSome "failureSummary" .string node.failureSummary
    ++ member "any" (.array (node.anyChecks.map Check.toJson))
    ++ member "all" (.array (node.allChecks.map Check.toJson))
    ++ member "none" (.array (node.noneChecks.map Check.toJson)))

def RuleResult.ofDocument? (document : Document) : Option RuleResult := do
  let fields ← document.record?
    ["id", "description", "help", "helpUrl", "nodes", "guidanceLinks"]
  pure {
    id := ← fields.required "id" text?
    description := ← fields.defaulted "description" text? ""
    help := ← fields.defaulted "help" text? ""
    helpUrl := ← fields.defaulted "helpUrl" text? ""
    nodes := ← fields.defaulted "nodes" (list? Node.ofDocument?) []
    guidanceLinks := ← fields.optional "guidanceLinks" (list? GuidanceLink.ofDocument?) }

def RuleResult.toJson (rule : RuleResult) : Json :=
  .object (
    member "id" (.string rule.id)
    ++ member "description" (.string rule.description)
    ++ member "help" (.string rule.help)
    ++ member "helpUrl" (.string rule.helpUrl)
    ++ member "nodes" (.array (rule.nodes.map Node.toJson))
    ++ memberIfSome "guidanceLinks" (fun links => .array (links.map GuidanceLink.toJson))
      rule.guidanceLinks)

/-! ## Times and buckets -/

/-- Whether a whole number fits into 64 bits with a sign. -/
def Timestamp.holdsMillis (n : Int) : Bool :=
  -0x8000000000000000 ≤ n && n < 0x8000000000000000

/-- A whole number of 64 bits or a text. -/
def Timestamp.ofDocument? : Document → Option Timestamp
  | .number (.integer n) => if holdsMillis n then some (.epochMillis n) else none
  | .string formatted => some (.text formatted)
  | _ => none

def Timestamp.toJson : Timestamp → Json
  | .epochMillis n => Json.integer n
  | .text formatted => .string formatted

theorem Timestamp.ofDocument?_toJson (timestamp : Timestamp)
    (h : ∀ n, timestamp = .epochMillis n → holdsMillis n = true) :
    ofDocument? (.ofJson timestamp.toJson) = some timestamp := by
  cases timestamp with
  | epochMillis n => simp [toJson, Json.integer, ofJson, ofDocument?, h n rfl]
  | text formatted => rfl

def Bucket.ofDocument? : Document → Option Bucket :=
  choice? nullPayload Bucket.named

/-- The members that hold the buckets. -/
def Buckets.members (buckets : Buckets) : List (String × Json) :=
  Bucket.all.map fun bucket =>
    (bucket.name, .array ((buckets.get bucket).map RuleResult.toJson))

/-! ## Scans -/

def EngineScan.ofDocument? (document : Document) : Option EngineScan := do
  let fields ← document.record?
    ["passes", "violations", "incomplete", "inapplicable", "timestamp", "url"]
  let rules? := list? RuleResult.ofDocument?
  pure {
    passes := ← fields.defaulted "passes" rules? []
    violations := ← fields.defaulted "violations" rules? []
    incomplete := ← fields.defaulted "incomplete" rules? []
    inapplicable := ← fields.defaulted "inapplicable" rules? []
    timestamp := ← fields.defaulted "timestamp" Timestamp.ofDocument? (.text "")
    url := ← fields.defaulted "url" text? "" }

def EngineScan.toJson (scan : EngineScan) : Json :=
  .object (scan.toBuckets.members
    ++ [("timestamp", scan.timestamp.toJson), ("url", .string scan.url)])

def ScanResults.ofDocument? (document : Document) : Option ScanResults := do
  let fields ← document.record?
    ["passes", "violations", "incomplete", "inapplicable", "timestamp", "targetPageUrl",
      "targetPageTitle"]
  let rules? := list? RuleResult.ofDocument?
  pure {
    passes := ← fields.required "passes" rules?
    violations := ← fields.required "violations" rules?
    incomplete := ← fields.required "incomplete" rules?
    inapplicable := ← fields.required "inapplicable" rules?
    timestamp := ← fields.required "timestamp" text?
    targetPageUrl := ← fields.required "targetPageUrl" text?
    targetPageTitle := ← fields.required "targetPageTitle" text? }

def ScanResults.toJson (scan : ScanResults) : Json :=
  .object (scan.toBuckets.members
    ++ [("timestamp", .string scan.timestamp), ("targetPageUrl", .string scan.targetPageUrl),
      ("targetPageTitle", .string scan.targetPageTitle)])

end AccessReport
