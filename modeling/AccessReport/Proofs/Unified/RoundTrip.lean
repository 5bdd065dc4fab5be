import AccessReport.Proofs.Scan.RoundTrip
import AccessReport.Unified.Format
/-!
# Written exports

Every part of an export reads back from what was written of it. All its fields are texts, so no
part can be too deep or out of range.

* `UnifiedResult.ofFields?_members`: a result, also from among other members.
* `UnifiedScanResult.ofDocument?_toJson`, `UnifiedScanResult.exact_toJson`: the whole export.
-/
namespace AccessReport

open Document Json Fields

namespace UnifiedRule

theorem ofDocument?_toJson (rule : UnifiedRule) : ofDocument? (ofJson rule.toJson) = some rule := by
  have hlisted : Listed ["id", "description", "url", "guidance"]
      [("id", Json.string rule.id), ("description", .string rule.description),
        ("url", .string rule.url),
        ("guidance", .array (rule.guidance.map GuidanceLink.toJson))] := .refl _
  rw [ofDocument?, toJson, record?_written hlisted (by decide) (by decide)]
  simp [Grouping.lookup_cons_eq, GuidanceLink.list?_written_links]

theorem exact_toJson (rule : UnifiedRule) : Exact 5 rule.toJson :=
  .object (by simp [Exact.string, GuidanceLink.exact_links rule.guidance 0])

end UnifiedRule

/-! ## Parts of a result -/

theorem ResultStatus.ofDocument?_name (empty : Payload) (status : ResultStatus) :
    ofDocument? empty (ofJson (.string status.name)) = some status := by
  cases status <;> rfl

theorem Identifiers.ofDocument?_toJson (identifiers : Identifiers) :
    ofDocument? (ofJson identifiers.toJson) = some identifiers := by
  have hlisted : Listed ["identifier", "conciseName", "css-selector"]
      [("identifier", Json.string identifiers.identifier),
        ("conciseName", .string identifiers.conciseName),
        ("css-selector", .string identifiers.cssSelector)] := .refl _
  rw [ofDocument?, toJson, record?_written hlisted (by decide) (by decide)]
  simp [Grouping.lookup_cons_eq]

theorem Descriptors.ofDocument?_toJson (descriptors : Descriptors) :
    ofDocument? (ofJson descriptors.toJson) = some descriptors := by
  have hlisted : Listed ["snippet"] [("snippet", Json.string descriptors.snippet)] := .refl _
  rw [ofDocument?, toJson, record?_written hlisted (by decide) (by decide)]
  simp [Grouping.lookup_cons_eq]

theorem HowToFix.ofDocument?_toJson (fix : HowToFix) :
    ofDocument? (ofJson fix.toJson) = some fix := by
  have hlisted : Listed ["any", "none", "all"]
      [("any", strings fix.anyMessages), ("none", strings fix.noneMessages),
        ("all", strings fix.allMessages)] := .refl _
  rw [ofDocument?, toJson, record?_written hlisted (by decide) (by decide)]
  simp [Grouping.lookup_cons_eq, list?_strings]

theorem HowToFix.exact_toJson (fix : HowToFix) : Exact 2 fix.toJson :=
  .object (by simp [exact_strings 0])

theorem Resolution.ofDocument?_toJson (resolution : Resolution) :
    ofDocument? (ofJson resolution.toJson) = some resolution := by
  have hlisted := ((Listed.ifSome "how-to-fix-web" HowToFix.toJson resolution.howToFix).append
    (.ifSome "howToFixSummary" .string resolution.howToFixSummary)).append
    (.ifSome "how-to-check-web" .string resolution.howToCheck)
  have hfix : readOr none (option? HowToFix.ofDocument?) (resolution.howToFix.map HowToFix.toJson)
      = some resolution.howToFix :=
    readOr_map (by simp [HowToFix.toJson, ofJson]) fun fix _ => fix.ofDocument?_toJson
  rw [ofDocument?, toJson, record?_written hlisted (by decide) (by decide)]
  simp [List.lookup_append, hfix]

theorem Resolution.exact_toJson (resolution : Resolution) : Exact 3 resolution.toJson := by
  refine .object ?_
  simp only [List.forall_mem_append, forall_mem_memberIfSome]
  exact ⟨⟨fun fix _ => fix.exact_toJson, fun _ _ => .string ..⟩, fun _ _ => .string ..⟩

/-! ## Results and exports -/

namespace UnifiedResult

theorem listed_members (result : UnifiedResult) : Listed fieldNames result.members := .refl _

/-- A result reads back from its members, whatever counts as an empty payload. -/
theorem ofFields?_members (empty : Payload) (result : UnifiedResult) :
    ofFields? empty (written result.members) = some result := by
  rw [ofFields?, members]
  simp [Grouping.lookup_cons_eq, result.status.ofDocument?_name empty,
    result.identifiers.ofDocument?_toJson, result.descriptors.ofDocument?_toJson,
    result.resolution.ofDocument?_toJson]

theorem ofDocument?_toJson (result : UnifiedResult) :
    ofDocument? (ofJson result.toJson) = some result := by
  rw [ofDocument?, toJson, record?_written result.listed_members (by decide) (by decide)]
  exact result.ofFields?_members nullPayload

theorem exact_members (result : UnifiedResult) :
    ∀ member ∈ result.members, Exact 3 member.2 := by
  have hidentifiers : Exact 3 result.identifiers.toJson := .object (by simp [Exact.string])
  have hdescriptors : Exact 3 result.descriptors.toJson := .object (by simp [Exact.string])
  simp [members, Exact.string, hidentifiers, hdescriptors, result.resolution.exact_toJson]

end UnifiedResult

theorem ToolInfo.ofDocument?_toJson (info : ToolInfo) :
    ofDocument? (ofJson info.toJson) = some info := by
  have hlisted : Listed ["name", "version"]
      [("name", Json.string info.name), ("version", .string info.version)] := .refl _
  rw [ofDocument?, toJson, record?_written hlisted (by decide) (by decide)]
  simp [Grouping.lookup_cons_eq]

theorem TargetAppInfo.ofDocument?_toJson (info : TargetAppInfo) :
    ofDocument? (ofJson info.toJson) = some info := by
  have hlisted : Listed ["name", "url"]
      [("name", Json.string info.name), ("url", .string info.url)] := .refl _
  rw [ofDocument?, toJson, record?_written hlisted (by decide) (by decide)]
  simp [Grouping.lookup_cons_eq]

namespace UnifiedScanResult

theorem ofDocument?_toJson (scan : UnifiedScanResult) :
    ofDocument? (ofJson scan.toJson) = some scan := by
  have hlisted : Listed ["schema", "toolInfo", "targetAppInfo", "timestamp", "rules", "results"]
      [("schema", Json.string scan.schema), ("toolInfo", scan.toolInfo.toJson),
        ("targetAppInfo", scan.targetAppInfo.toJson), ("timestamp", .string scan.timestamp),
        ("rules", .array (scan.rules.map UnifiedRule.toJson)),
        ("results", .array (scan.results.map UnifiedResult.toJson))] := .refl _
  have hrules : list? UnifiedRule.ofDocument?
      (ofJson (.array (scan.rules.map UnifiedRule.toJson))) = some scan.rules :=
    list?_written fun rule _ => rule.ofDocument?_toJson
  have hresults : list? UnifiedResult.ofDocument?
      (ofJson (.array (scan.results.map UnifiedResult.toJson))) = some scan.results :=
    list?_written fun result _ => result.ofDocument?_toJson
  rw [ofDocument?, toJson, record?_written hlisted (by decide) (by decide)]
  simp [Grouping.lookup_cons_eq, scan.toolInfo.ofDocument?_toJson,
    scan.targetAppInfo.ofDocument?_toJson, hrules, hresults]

theorem exact_toJson (scan : UnifiedScanResult) : Exact 7 scan.toJson := by
  have htool : Exact 6 scan.toolInfo.toJson := .object (by simp [Exact.string])
  have htarget : Exact 6 scan.targetAppInfo.toJson := .object (by simp [Exact.string])
  have hrules : Exact 6 (.array (scan.rules.map UnifiedRule.toJson)) :=
    exact_array fun rule _ => rule.exact_toJson
  have hresults : Exact 6 (.array (scan.results.map UnifiedResult.toJson)) :=
    exact_array fun result _ => (Exact.object result.exact_members).mono (by omega)
  exact .object (by simp [Exact.string, htool, htarget, hrules, hresults])

end UnifiedScanResult

end AccessReport
