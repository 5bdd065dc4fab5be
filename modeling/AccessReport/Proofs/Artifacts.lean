import AccessReport.Config.Text
import AccessReport.Proofs.Cards.RoundTrip
import AccessReport.Proofs.Config.Written
/-!
# Artifacts survive being written

What the program writes as JSON it can read: the same value comes back, whether blanks were spent
on the text or not. Fields that are left out come back as what they were left out for, and an empty
list that is written stays apart from no list.

Two things could be lost, both in parts of a scan that are not its own: an object in the data of a
check whose members are not in order, and a time beyond 64 bits. `Check.Held` and
`EngineScan.Held` rule them out, and data that is deeper than a reader goes.

* `artifacts_readBack`: scans, decorated scans, exports, views, selections, configurations.
-/
namespace AccessReport

open Json

/-- The levels of a scan around the data of a check: the scan, a bucket, a rule, its nodes, a node,
a group of checks and the check. -/
def levelsAroundData : Nat := 7

/-- **Artifacts.** What is written as JSON, be it a scan, a decorated scan, an export, a view, a
selection or a configuration, is read back as it was, from the compact text as well as from the
pretty one. -/
theorem artifacts_readBack :
    (∀ scan : EngineScan, scan.Held (deepest - levelsAroundData) →
      ReadsBack EngineScan.toJson EngineScan.ofDocument? scan) ∧
    (∀ scan : ScanResults, scan.toBuckets.Held (deepest - levelsAroundData) →
      ReadsBack ScanResults.toJson ScanResults.ofDocument? scan) ∧
    (∀ scan : UnifiedScanResult,
      ReadsBack UnifiedScanResult.toJson UnifiedScanResult.ofDocument? scan) ∧
    (∀ view : CardsView, ReadsBack CardsView.toJson CardsView.ofDocument? view) ∧
    (∀ selection : Selection, selection.Sorted →
      ReadsBack Selection.toJson Selection.ofDocument? selection) ∧
    ∀ config : Config, ReadsBack Config.toJson Config.ofJsonDocument? config := by
  refine ⟨fun scan h => ?_, fun scan h => ?_, fun scan => ?_, fun view => ?_,
    fun selection h => ?_, fun config => ?_⟩
  · exact .of_exact (EngineScan.exact_toJson h) (EngineScan.ofDocument?_toJson h)
  · exact .of_exact (ScanResults.exact_toJson h) (ScanResults.ofDocument?_toJson h)
  · exact .of_exact (scan.exact_toJson.mono (by decide)) scan.ofDocument?_toJson
  · exact .of_exact (view.exact_toJson.mono (by decide)) view.ofDocument?_toJson
  · exact .of_exact (selection.exact_toJson.mono (by decide)) (Selection.ofDocument?_toJson h)
  · exact .of_exact (config.exact_toJson.mono (by decide))
      (config.ofDocument?_toJson Document.nullPayload)

/-- The data of a check, with objects and a list inside each other. -/
def nestedData : Json := .object [
  ("colors", .array [.null, .string "#fff"]),
  ("limits", .object [("least", .integer (-1)), ("most", .integer 0xFFFFFFFFFFFFFFFF)])]

theorem nestedData_exact : nestedData.Exact 2 := by
  have hcolors : Exact 1 (.array [.null, .string "#fff"]) :=
    .array (by simp [Exact.null, Exact.string])
  have hleast : Exact 0 (integer (-1)) := .integer 0 (by decide)
  have hmost : Exact 0 (integer 0xFFFFFFFFFFFFFFFF) := .integer 0 (by decide)
  have hlimits : Exact 1
      (.object [("least", .integer (-1)), ("most", .integer 0xFFFFFFFFFFFFFFFF)]) :=
    .object (by simp [hleast, hmost])
  exact .object (by simp [hcolors, hlimits])

theorem nestedData_sorted : nestedData.Sorted := by
  have hcolors : Sorted (.array [.null, .string "#fff"]) :=
    .array (by simp [Sorted.null, Sorted.string])
  have hlimits : Sorted
      (.object [("least", .integer (-1)), ("most", .integer 0xFFFFFFFFFFFFFFFF)]) :=
    .object (by decide) (by simp [Sorted.number, integer])
  exact .object (by decide) (by simp [hcolors, hlimits])

/-- A rule with a check that carries data, and with a list of links that is empty. -/
def ruleWithData : RuleResult where
  id := "contrast"
  guidanceLinks := some []
  nodes := [{ target := ["p"], allChecks := [{ id := "ratio", data := nestedData }] }]

theorem ruleWithData_held (levels : Nat) (h : 2 ≤ levels) : ruleWithData.Held levels := by
  intro node hn check hc
  obtain rfl := List.mem_singleton.mp hn
  obtain rfl := List.mem_singleton.mp hc
  exact ⟨nestedData_exact.mono h, nestedData_sorted⟩

theorem artifacts_readBack_nested :
    let scan : EngineScan := { incomplete := [ruleWithData], timestamp := .epochMillis (-1) }
    let results : ScanResults := { violations := [ruleWithData, ruleWithData] }
    let selection : Selection := { highlights := [("a", .hidden), ("b", .visible)] }
    (scan.Held (deepest - levelsAroundData) ∧ results.toBuckets.Held (deepest - levelsAroundData) ∧
      selection.Sorted) ∧
    ReadsBack EngineScan.toJson EngineScan.ofDocument? scan ∧
    ReadsBack ScanResults.toJson ScanResults.ofDocument? results ∧
    ReadsBack Selection.toJson Selection.ofDocument? selection := by
  intro scan results selection
  have hrule := ruleWithData_held (deepest - levelsAroundData) (by decide)
  have hscan : scan.Held (deepest - levelsAroundData) := by
    refine ⟨?_, fun n hn => ?_⟩
    · intro rule hr
      obtain rfl := List.mem_singleton.mp hr
      exact hrule
    · cases hn
      decide
  have hresults : results.toBuckets.Held (deepest - levelsAroundData) := by
    intro rule hr
    have hm : rule ∈ [ruleWithData, ruleWithData] := hr
    obtain rfl : rule = ruleWithData := by simpa using hm
    exact hrule
  have hselection : selection.Sorted := by unfold Selection.Sorted; decide
  obtain ⟨readScan, readResults, -, -, readSelection, -⟩ := artifacts_readBack
  exact ⟨⟨hscan, hresults, hselection⟩, readScan scan hscan, readResults results hresults,
    readSelection selection hselection⟩

end AccessReport
