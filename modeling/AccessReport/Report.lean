import AccessReport.Cards.Counts
import AccessReport.Cards.View
import AccessReport.Decoration.Results
import AccessReport.Json.Reader
import AccessReport.Log.Traced
import AccessReport.Scan.Format
import AccessReport.Unified.Results
import AccessReport.Unified.Rules
/-!
# Reports

One engine result becomes a report: the decorated results, their export, and the cards with their
counts.

Results:
* `run_outcome`: a report is made if and only if the engine result can be read and the
  configuration compiles.
-/
namespace AccessReport

/-- The name under which the tool signs exports. -/
def toolName : String := "a11ylens"

def toolVersion : String := "0.1.0"

def unifiedSchema : String := "a11ylens.unified.v1"

/-- What a report is asked for. Without a selection nothing is selected or expanded. -/
structure ReportPlan where
  title : String := ""
  mode : ConversionMode := .automated
  selection : Option Selection := none
deriving DecidableEq, Repr

inductive ReportError where
  | unreadableScan
  | configuration (cause : RegistryError)
deriving DecidableEq, Repr

namespace ReportError

def message : ReportError → String
  | unreadableScan => "parse engine scan result"
  | configuration _ => "compile configuration"

/-- The messages of the error and of what caused it, outermost first. -/
def chain (error : ReportError) : List String :=
  error.message :: match error with
    | unreadableScan => ["the text is not the JSON of an engine scan result"]
    | configuration cause => cause.chain

end ReportError

/-- The export of a scan with the given rules and results (`build_unified_scan_result`). -/
def UnifiedScanResult.ofScan (scan : ScanResults) (rules : List UnifiedRule)
    (results : List UnifiedResult) : UnifiedScanResult where
  schema := unifiedSchema
  toolInfo := { name := toolName, version := toolVersion }
  targetAppInfo := { name := scan.targetPageTitle, url := scan.targetPageUrl }
  timestamp := scan.timestamp
  rules := rules
  results := results

structure Report where
  scanResults : ScanResults
  unified : UnifiedScanResult
  cards : CardsView
  counts : CardCounts
deriving Repr

/-- The engine result that a text holds. -/
def EngineScan.ofText? (text : String) : Option EngineScan := do
  ofDocument? (← Json.read? text)

namespace Report

/-- The report on an engine result. -/
def ofScan (plan : ReportPlan) (registries : Registries) (uids : UidSupply) (engine : EngineScan) :
    Report :=
  let scan := registries.decorate plan.title engine
  let rules := UnifiedRule.ofScan scan
  let results := Converter.results { rules := registries.rules, uids } plan.mode scan
  let cards := CardsView.of rules results (plan.selection.getD {})
  { scanResults := scan
    unified := .ofScan scan rules results
    cards
    counts := .ofView cards }

/-- What is told while a report is made. -/
def events (plan : ReportPlan) (registries : Registries) (engine : EngineScan) (report : Report) :
    List Event :=
  [.compiled registries.rules.size registries.guidance.size registries.suppression.size]
    ++ (registries.dropped engine).map (fun drop => .droppedRule drop.1 drop.2)
    ++ [.converted plan.mode report.unified.rules.length report.unified.results.length,
      .counted report.counts]

/-- The registries of a configuration. -/
def registries (config : Config) : Except ReportError Registries :=
  (Registries.compile config).mapError .configuration

/-- The engine result of a text. -/
def engineScan (text : String) : Except ReportError EngineScan :=
  match EngineScan.ofText? text with
  | some engine => .ok engine
  | none => .error .unreadableScan

/-- The report on the text of an engine result (`run_report`). -/
def run (plan : ReportPlan) (config : Config) (text : String) (uids : UidSupply) :
    Traced ReportError Report := do
  let engine ← .ofExcept (engineScan text)
  let registries ← .ofExcept (registries config)
  let report := ofScan plan registries uids engine
  Traced.tellAll (report.events plan registries engine)
  pure report

theorem run_outcome (plan : ReportPlan) (config : Config) (text : String) (uids : UidSupply)
    (report : Report) :
    (run plan config text uids).outcome = .ok report ↔
      ∃ engine compiled, EngineScan.ofText? text = some engine ∧
        Registries.compile config = .ok compiled ∧ report = ofScan plan compiled uids engine := by
  simp only [run, Traced.outcome_bind, Traced.outcome_ofExcept, Traced.outcome_tellAll,
    Traced.outcome_pure, engineScan, registries]
  cases EngineScan.ofText? text with
  | none => simp [bind, Except.bind]
  | some engine =>
    cases Registries.compile config with
    | error error => simp [bind, Except.bind, Traced.mapError_error]
    | ok compiled => simp [bind, Except.bind, Traced.mapError_ok, eq_comm]

end Report
end AccessReport
