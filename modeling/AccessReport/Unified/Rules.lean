import AccessReport.Unified.Basic
/-!
# Unified rules of a scan

One unified rule for every id in the scan. The buckets are walked in their order, and the first
rule result with an id describes the rule.

Results:
* `firstOccurrences_ids_nodup`: no id occurs twice.
-/
namespace AccessReport

/-- A rule result as a unified rule. -/
def RuleResult.toUnifiedRule (rule : RuleResult) : UnifiedRule where
  id := rule.id
  description := rule.description
  url := rule.helpUrl
  guidance := rule.guidanceLinks.getD []

namespace UnifiedRule

/-- The first rule result of every id that is not among the ids seen before. -/
def firstOccurrences (seen : List String) : List RuleResult → List RuleResult
  | [] => []
  | rule :: rest =>
    if seen.contains rule.id then firstOccurrences seen rest
    else rule :: firstOccurrences (rule.id :: seen) rest

/-- The unified rules of a scan (`convert_scan_results_to_unified_rules`). -/
def ofScan (scan : ScanResults) : List UnifiedRule :=
  (firstOccurrences [] scan.toBuckets.walk).map RuleResult.toUnifiedRule

/-- Without a scan there are no rules. -/
def ofScan? (scan : Option ScanResults) : List UnifiedRule :=
  (scan.map ofScan).getD []

theorem not_mem_firstOccurrences (seen : List String) (rules : List RuleResult) (id : String)
    (h : id ∈ seen) : id ∉ (firstOccurrences seen rules).map (·.id) := by
  induction rules generalizing seen with
  | nil => simp [firstOccurrences]
  | cons rule rest ih =>
    rw [firstOccurrences]
    split
    · exact ih seen h
    · rename_i hr
      have hne : id ≠ rule.id := by
        rintro rfl
        simp [h] at hr
      simpa [hne] using ih (rule.id :: seen) (List.mem_cons_of_mem _ h)

theorem firstOccurrences_ids_nodup (seen : List String) (rules : List RuleResult) :
    ((firstOccurrences seen rules).map (·.id)).Nodup := by
  induction rules generalizing seen with
  | nil => simp [firstOccurrences]
  | cons rule rest ih =>
    rw [firstOccurrences]
    split
    · exact ih seen
    · rw [List.map_cons, List.nodup_cons]
      exact ⟨not_mem_firstOccurrences _ _ _ List.mem_cons_self, ih _⟩

end UnifiedRule
end AccessReport
