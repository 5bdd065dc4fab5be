import AccessReport.Cards.Format
import AccessReport.Config.Format
import AccessReport.Proofs.Json.Records
import AccessReport.Proofs.Schema.Validity
import AccessReport.Report
import AccessReport.Schema.Artifacts
/-!
# What is written fits its schema

A written record has a member for each required field, and each member is of the form that the
schema gives for its field. This is shown part by part, from checks and links up, so that a record
with a new field needs one more fact about the part in that field.

Results:
* `Config.fits_toJson`, `Selection.fits_toJson`, `ScanResults.fits_toJson`,
  `UnifiedScanResult.fits_toJson`, `CardsView.fits_toJson`: each of them, whatever it holds.
* `Report.artifacts_fit`: all that is written of a report.
-/
namespace AccessReport

open Schema
open Json (member memberIfSome memberIfAny strings)

namespace Schema

/-! ## One field of a record -/

/-- The members say of a field what the schema of the field allows. -/
def FieldFits (members : List (String × Json)) (field : Field × Schema) : Prop :=
  (∀ held, members.lookup field.1.name = some held → field.2.Fits held)
    ∧ (field.1.isRequired = true → (members.lookup field.1.name).isSome = true)

theorem fits_record_of_fields {name : String} {description : Option String}
    {fields : List (Field × Schema)} {members : List (String × Json)}
    (h : ∀ field ∈ fields, FieldFits members field) :
    Fits (.record name description fields) (.object members) :=
  Fits.record (fun field hf => (h field hf).1) fun field hf => (h field hf).2

variable (members : List (String × Json)) (name : String) (schema : Schema)
  (description : Option String)

@[simp] theorem fieldFits_required :
    FieldFits members (required name schema description)
      ↔ ∃ held, members.lookup name = some held ∧ schema.Fits held := by
  cases h : members.lookup name <;> simp [FieldFits, required, Field.isRequired, h]

@[simp] theorem fieldFits_omissible :
    FieldFits members (omissible name schema description)
      ↔ ∀ held, members.lookup name = some held → schema.Fits held := by
  simp [FieldFits, omissible, Field.isRequired]

@[simp] theorem fieldFits_defaulted (value : Json) :
    FieldFits members (defaulted name schema value description)
      ↔ ∀ held, members.lookup name = some held → schema.Fits held := by
  simp [FieldFits, defaulted, Field.isRequired]

end Schema

/-! ## Lists of parts -/

variable {α : Type}

theorem Schema.fits_array {schema : Schema} {write : α → Json}
    (h : ∀ item, schema.Fits (write item)) (items : List α) :
    (listOf schema).Fits (.array (items.map write)) := by
  simp [h]

theorem Schema.fits_strings (texts : List String) : (listOf text).Fits (strings texts) :=
  fits_array (fun held => Fits.text held) texts

/-! ## Scan results -/

theorem Check.fits_toJson (check : Check) : checkResult.Fits check.toJson := by
  apply fits_record_of_fields
  simp [emptyTextByDefault, falseByDefault, Grouping.lookup_cons_eq]

theorem Node.fits_toJson (node : Node) : nodeResult.Fits node.toJson := by
  have hchecks := fits_array Check.fits_toJson
  have htarget := fits_strings node.target
  apply fits_record_of_fields
  simp [emptyListByDefault, emptyTextByDefault, nullable, List.lookup_append, hchecks, htarget,
    -fits_listOf]

theorem GuidanceTag.fits_toJson (tag : GuidanceTag) : guidanceTag.Fits tag.toJson := by
  apply fits_record_of_fields
  simp [Grouping.lookup_cons_eq]

theorem GuidanceLink.fits_toJson (link : GuidanceLink) : guidanceLink.Fits link.toJson := by
  have htags := fits_array GuidanceTag.fits_toJson
  apply fits_record_of_fields
  simp [nullable, List.lookup_append, htags, -fits_listOf]

theorem RuleResult.fits_toJson (rule : RuleResult) : ruleResult.Fits rule.toJson := by
  have hnodes := fits_array Node.fits_toJson rule.nodes
  have hlinks := fits_array GuidanceLink.fits_toJson
  apply fits_record_of_fields
  simp [emptyListByDefault, emptyTextByDefault, nullable, List.lookup_append, hnodes, hlinks,
    -fits_listOf]

theorem ScanResults.fits_toJson (scan : ScanResults) : scanResults.Fits scan.toJson := by
  have hrules := fits_array RuleResult.fits_toJson
  apply fits_record_of_fields
  simp [Buckets.members, Bucket.all, Bucket.name, Buckets.get, Grouping.lookup_cons_eq, hrules,
    -fits_listOf]

/-! ## The export -/

theorem UnifiedRule.fits_toJson (rule : UnifiedRule) : unifiedRule.Fits rule.toJson := by
  have hlinks := fits_array GuidanceLink.fits_toJson rule.guidance
  apply fits_record_of_fields
  simp [Grouping.lookup_cons_eq, hlinks, -fits_listOf]

theorem ResultStatus.fits_name (status : ResultStatus) :
    resultStatus.Fits (.string status.name) := by
  cases status <;> simp [resultStatus, variantsOf, name]

theorem Identifiers.fits_toJson (held : Identifiers) : identifiers.Fits held.toJson := by
  apply fits_record_of_fields
  simp [Grouping.lookup_cons_eq]

theorem Descriptors.fits_toJson (held : Descriptors) : descriptors.Fits held.toJson := by
  apply fits_record_of_fields
  simp [Grouping.lookup_cons_eq]

theorem HowToFix.fits_toJson (fix : HowToFix) : howToFix.Fits fix.toJson := by
  apply fits_record_of_fields
  simp [Grouping.lookup_cons_eq, fits_strings, -fits_listOf]

theorem Resolution.fits_toJson (held : Resolution) : resolution.Fits held.toJson := by
  apply fits_record_of_fields
  simp [nullable, List.lookup_append, HowToFix.fits_toJson]

/-- What a result says of itself, on a card or alone. -/
theorem UnifiedResult.fieldFits_members (result : UnifiedResult)
    (more : List (String × Json)) :
    ∀ field ∈ unifiedResultFields, FieldFits (result.members ++ more) field := by
  simp [unifiedResultFields, members, Grouping.lookup_cons_eq, ResultStatus.fits_name,
    Identifiers.fits_toJson, Descriptors.fits_toJson, Resolution.fits_toJson]

theorem UnifiedResult.fits_toJson (result : UnifiedResult) : unifiedResult.Fits result.toJson := by
  apply fits_record_of_fields
  simpa using result.fieldFits_members []

theorem UnifiedScanResult.fits_toJson (scan : UnifiedScanResult) :
    unifiedScanResult.Fits scan.toJson := by
  have htool : Schema.toolInfo.Fits scan.toolInfo.toJson := by
    apply fits_record_of_fields
    simp [Grouping.lookup_cons_eq]
  have htarget : Schema.targetAppInfo.Fits scan.targetAppInfo.toJson := by
    apply fits_record_of_fields
    simp [Grouping.lookup_cons_eq]
  have hrules := fits_array UnifiedRule.fits_toJson scan.rules
  have hresults := fits_array UnifiedResult.fits_toJson scan.results
  apply fits_record_of_fields
  simp [Grouping.lookup_cons_eq, htool, htarget, hrules, hresults, -fits_listOf]

/-! ## Cards -/

theorem HighlightStatus.fits_name (status : HighlightStatus) :
    highlightStatus.Fits (.string status.name) := by
  cases status <;> simp [highlightStatus, variantsOf, name]

theorem CardStatus.fits_name (status : CardStatus) : cardStatus.Fits (.string status.name) := by
  cases status <;> simp [cardStatus, variantsOf, name]

theorem CardResult.fits_toJson (card : CardResult) : cardResult.Fits card.toJson := by
  apply fits_record_of_fields
  unfold cardResultFields
  rw [List.forall_mem_append]
  constructor
  · rw [List.append_assoc]
    exact card.result.fieldFits_members _
  · simp [nullable, List.lookup_append, UnifiedResult.members, Grouping.lookup_cons_eq,
      HighlightStatus.fits_name]

theorem RuleCard.fits_toJson (card : RuleCard) : ruleCard.Fits card.toJson := by
  have hnodes := fits_array CardResult.fits_toJson card.nodes
  have hlinks := fits_array GuidanceLink.fits_toJson card.guidance
  apply fits_record_of_fields
  simp [Grouping.lookup_cons_eq, CardStatus.fits_name, hnodes, hlinks, -fits_listOf]

theorem CardsByStatus.fits_toJson (cards : CardsByStatus) : cardsByStatus.Fits cards.toJson := by
  have hcards := fits_array RuleCard.fits_toJson
  apply fits_record_of_fields
  simp [Grouping.lookup_cons_eq, hcards, -fits_listOf]

theorem CardsView.fits_toJson (view : CardsView) : cardsView.Fits view.toJson := by
  apply fits_record_of_fields
  simp [Grouping.lookup_cons_eq, CardsByStatus.fits_toJson]

theorem Selection.fits_toJson (held : Selection) : selection.Fits held.toJson := by
  have hhighlights : (mapOf highlightStatus).Fits
      (.object (held.highlights.map fun entry => (entry.1, .string entry.2.name))) := by
    apply Fits.mapOf
    simp only [List.forall_mem_map]
    exact fun entry _ => entry.2.fits_name
  apply fits_record_of_fields
  simp [emptyListByDefault, falseByDefault, Grouping.lookup_cons_eq, fits_strings, hhighlights,
    -fits_listOf, -fits_mapOf]

/-! ## Configurations -/

theorem CheckConfig.fits_toJson (check : CheckConfig) : checkConfig.Fits check.toJson := by
  apply fits_record_of_fields
  simp [nullable, List.lookup_append]

theorem NodeDecorator.fits_name (decorator : NodeDecorator) :
    nodeDecorator.Fits (.string decorator.name) := by
  cases decorator <;> simp [nodeDecorator, name]

theorem RuleConfig.fits_toJson (rule : RuleConfig) : ruleConfig.Fits rule.toJson := by
  have hguidance := fits_array Fits.text rule.guidance
  have hchecks := fits_array CheckConfig.fits_toJson rule.checks
  apply fits_record_of_fields
  simp [nullable, falseByDefault, List.lookup_append, NodeDecorator.fits_name, hguidance, hchecks,
    -fits_listOf]

theorem LinkConfig.fits_toJson (link : LinkConfig) : linkConfig.Fits link.toJson := by
  have htag (tag : LinkTagConfig) : linkTagConfig.Fits tag.toJson := by
    apply fits_record_of_fields
    simp [Grouping.lookup_cons_eq]
  have htags := fits_array htag link.tags
  apply fits_record_of_fields
  simp [List.lookup_append, htags, -fits_listOf]

theorem ConversionMode.fits_name (mode : ConversionMode) :
    conversionMode.Fits (.string mode.name) := by
  cases mode <;> simp [conversionMode, variantsOf, name]

theorem Defaults.fits_toJson (held : Defaults) : defaults.Fits held.toJson := by
  apply fits_record_of_fields
  simp [nullable, List.lookup_append, ConversionMode.fits_name]

theorem SuppressionConfig.fits_toJson (held : SuppressionConfig) :
    suppressionConfig.Fits held.toJson := by
  have hmessages := fits_array Fits.text held.messages
  apply fits_record_of_fields
  simp [hmessages, -fits_listOf]

theorem Config.fits_toJson (held : Config) : config.Fits held.toJson := by
  have hincludes := fits_array Fits.text held.includes
  have hrules := fits_array RuleConfig.fits_toJson held.rules
  have hlinks := fits_array LinkConfig.fits_toJson held.links
  apply fits_record_of_fields
  simp [emptyListByDefault, List.lookup_append, Defaults.fits_toJson,
    SuppressionConfig.fits_toJson, hincludes, hrules, hlinks, -fits_listOf]

/-! ## Reports -/

/-- **Schemas.** Whatever a report was made from, the decorated results, the export and the cards
that are written of it are accepted by the validator, each against its own schema. -/
theorem Report.artifacts_fit (report : Report) :
    Schema.scanResults.isValid report.scanResults.toJson = true
      ∧ unifiedScanResult.isValid report.unified.toJson = true
      ∧ cardsView.isValid report.cards.toJson = true := by
  simp only [isValid_iff_fits]
  exact ⟨report.scanResults.fits_toJson, report.unified.fits_toJson, report.cards.fits_toJson⟩

end AccessReport
