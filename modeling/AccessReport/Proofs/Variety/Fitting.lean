import AccessReport.Proofs.Schema.Artifacts
import AccessReport.Proofs.Variety.Coverage
import AccessReport.Variety.Cards
import AccessReport.Variety.Configs
/-!
# Varieties within schemas

Whatever is made up at random still has the form of what the program reads and writes. A variety is
within a schema if all its values fit; this is shown part by part, along the fields of both.

* `within_record`: a record field by field.
* `Varieties.within_rules`, `Varieties.within_scanResults`: scans.
* `Varieties.within_unifiedRules`, `Varieties.within_unifiedResults`, `Varieties.within_selection`:
  what cards are made from.
* `Varieties.within_config`: configurations.
-/
namespace AccessReport

open Schema

/-- All values of the variety fit the schema. -/
def Variety.Within (variety : Variety) (schema : Schema) : Prop :=
  ∀ value, variety.Makes value → schema.Fits value

namespace Variety

variable {variety : Variety} {schema : Schema} {name : String} {description : Option String}

theorem within_any (variety : Variety) : variety.Within .any := fun value _ => Fits.any value

theorem within_exactly {value : Json} (h : schema.Fits value) : (exactly value).Within schema := by
  intro made hmade
  cases hmade with
  | exactly => exact h

theorem within_anyOf {alternatives : List Variety}
    (h : ∀ variety ∈ alternatives, variety.Within schema) : (anyOf alternatives).Within schema := by
  intro value hmade
  cases hmade with
  | anyOf hm hmade => exact h _ hm value hmade

theorem within_text (pattern : Pattern) : (text pattern).Within .text := by
  intro value hmade
  cases hmade with
  | text => exact Fits.text _

theorem within_ofTexts {texts : List String} (h : ∀ held ∈ texts, schema.Fits (.string held)) :
    (ofTexts texts).Within schema :=
  within_anyOf (List.forall_mem_map.mpr fun held hmem => within_exactly (h held hmem))

theorem within_flag : flag.Within .flag :=
  within_anyOf (by simp [within_exactly])

theorem within_listOf {least most : Nat} (h : variety.Within schema) :
    (listOf least most variety).Within (.listOf schema) := by
  intro value hmade
  cases hmade with
  | listOf _ _ hitems => exact Fits.listOf fun item hitem => h item (hitems item hitem)

theorem within_mapOf {names : List String} {least most : Nat} (h : variety.Within schema) :
    (mapOf names least most variety).Within (.mapOf schema) := by
  intro value hmade
  cases hmade with
  | mapOf _ _ _ hmembers => exact Fits.mapOf fun member hm => h member.2 (hmembers member hm)

theorem within_optional (h : variety.Within schema) : variety.Within (.optional schema) :=
  fun value hmade => Fits.held (h value hmade)

/-- The fields of a variety say of a field of a schema what the schema asks for. -/
def FieldWithin (fields : List (String × Bool × Variety)) (field : Field × Schema) : Prop :=
  (∀ made ∈ fields, made.1 = field.1.name → made.2.2.Within field.2)
    ∧ (field.1.isRequired = true → ∃ made ∈ fields, made.1 = field.1.name ∧ made.2.1 = true)

theorem within_record {made : List (String × Bool × Variety)} {fields : List (Field × Schema)}
    (h : ∀ field ∈ fields, FieldWithin made field) :
    (record made).Within (.record name description fields) := by
  intro value hmade
  cases hmade with
  | @record _ kept members hkept hcertain hnames hmembers =>
    refine Fits.record (fun field hfield held hlookup => ?_) fun field hfield hrequired => ?_
    · have hmember := Grouping.mem_of_lookup hlookup
      obtain ⟨one, hone, hname, hpair⟩ := Survey.exists_field hnames hmember
      exact (h field hfield).1 one (hkept.subset hone) hname held (hmembers _ hpair)
    · obtain ⟨one, hone, hname, hcertainly⟩ := (h field hfield).2 hrequired
      have hmem : one ∈ kept := hcertain.subset (List.mem_filter.mpr ⟨hone, hcertainly⟩)
      rw [Grouping.isSome_lookup_iff, hnames, ← hname]
      exact List.mem_map_of_mem hmem

@[simp] theorem certain_fst : (certain name variety).1 = name := rfl

@[simp] theorem certain_snd : (certain name variety).2 = (true, variety) := rfl

@[simp] theorem possible_fst : (possible name variety).1 = name := rfl

@[simp] theorem possible_snd : (possible name variety).2 = (false, variety) := rfl

@[simp] theorem fieldWithin_required (fields : List (String × Bool × Variety)) :
    FieldWithin fields (required name schema description) ↔
      (∀ made ∈ fields, made.1 = name → made.2.2.Within schema)
        ∧ ∃ made ∈ fields, made.1 = name ∧ made.2.1 = true := by
  simp [FieldWithin, required, Field.isRequired]

@[simp] theorem fieldWithin_omissible (fields : List (String × Bool × Variety)) :
    FieldWithin fields (omissible name schema description) ↔
      ∀ made ∈ fields, made.1 = name → made.2.2.Within schema := by
  simp [FieldWithin, omissible, Field.isRequired]

@[simp] theorem fieldWithin_defaulted (fields : List (String × Bool × Variety)) (value : Json) :
    FieldWithin fields (defaulted name schema value description) ↔
      ∀ made ∈ fields, made.1 = name → made.2.2.Within schema := by
  simp [FieldWithin, defaulted, Field.isRequired]

end Variety

namespace Varieties

open Variety

/-! ## Scans -/

theorem within_check : check.Within checkResult := by
  have hmessage : message.Within .text := by
    apply within_anyOf
    simp [pooledMessages, within_text, within_ofTexts]
  apply within_record
  simp [emptyTextByDefault, falseByDefault, within_text, within_any, within_flag, hmessage]

theorem within_node : node.Within nodeResult := by
  have htarget : target.Within (.listOf .text) := within_listOf (within_text segment)
  have hchecks : checks.Within (.listOf checkResult) := within_listOf within_check
  apply within_record
  simp [emptyTextByDefault, emptyListByDefault, nullable, within_optional,
    within_text, within_ofTexts, htarget, hchecks]

theorem within_ruleId : ruleId.Within .text := within_ofTexts fun held _ => Fits.text held

theorem within_nodes : (listOf 0 Sketch.maxNodes node).Within (.listOf nodeResult) :=
  within_listOf within_node

theorem within_rule : rule.Within ruleResult := by
  apply within_record
  simp [ruleFields, emptyTextByDefault, emptyListByDefault, nullable, within_text,
    within_ruleId, within_nodes]

theorem within_decoratedRule : decoratedRule.Within ruleResult := by
  have hlinks : (exactly (.array [GuidanceLink.bestPractice.toJson])).Within
      (.listOf guidanceLink) :=
    within_exactly (fits_array GuidanceLink.fits_toJson [GuidanceLink.bestPractice])
  apply within_record
  simp [ruleFields, emptyTextByDefault, emptyListByDefault, nullable,
    within_text, within_optional, within_ruleId, within_nodes, hlinks]

/-- The buckets of scans that an engine has made. -/
theorem within_rules : rules.Within (.listOf ruleResult) := within_listOf within_rule

theorem within_scanResults : scanResults.Within Schema.scanResults := by
  have hrules : (listOf 0 maxRules decoratedRule).Within (.listOf ruleResult) :=
    within_listOf within_decoratedRule
  have htimestamp : (exactly timestampText).Within .text := within_exactly (Fits.text _)
  have hurl : (exactly (.string "https://page.example/")).Within .text :=
    within_exactly (Fits.text _)
  apply within_record
  simp [bucketFields, Bucket.all, Bucket.name, within_text, hrules, htimestamp, hurl]

/-! ## What cards are made from -/

theorem within_unifiedRules : unifiedRules.Within (.listOf unifiedRule) := by
  have hrule (id : String) : (unifiedRuleOf id).Within unifiedRule := by
    have htext (held : String) : (exactly (.string held)).Within .text :=
      within_exactly (Fits.text held)
    have hguidance : (exactly (.array [])).Within (.listOf guidanceLink) :=
      within_exactly (Fits.listOf (by simp))
    apply within_record
    simp [htext, hguidance]
  exact within_listOf (within_anyOf (List.forall_mem_map.mpr fun id _ => hrule id))

theorem within_resultStatus : resultStatus.Within Schema.resultStatus := by
  apply within_ofTexts
  simp only [List.forall_mem_map]
  exact fun status _ => status.fits_name

theorem within_highlightStatus : highlightStatus.Within Schema.highlightStatus := by
  apply within_ofTexts
  simp only [List.forall_mem_map]
  exact fun status _ => status.fits_name

theorem within_unifiedResults (ids : List String) :
    (unifiedResults ids).Within (.listOf unifiedResult) := by
  have htexts (texts : List String) : (ofTexts texts).Within .text :=
    within_ofTexts fun held _ => Fits.text held
  have hidentifiers : (record [
      certain "identifier" (text selector), certain "conciseName" (text segment),
      certain "css-selector" (text selector)]).Within Schema.identifiers := by
    apply within_record
    simp [within_text]
  have hdescriptors : (record [certain "snippet" (exactly (.string "<div>"))]).Within
      Schema.descriptors := by
    apply within_record
    simp [within_exactly]
  have hresolution : (exactly (.object [])).Within Schema.resolution :=
    within_exactly (Resolution.fits_toJson {})
  apply within_listOf
  apply within_record
  simp [unifiedResultFields, uid, within_resultStatus, htexts, hidentifiers, hdescriptors,
    hresolution]

theorem within_selection : selection.Within Schema.selection := by
  have huids : (listOf 0 4 uid).Within (.listOf .text) :=
    within_listOf (within_ofTexts fun held _ => Fits.text held)
  have hrules : (listOf 0 3 ruleId).Within (.listOf .text) := within_listOf within_ruleId
  have hhighlights : (mapOf uids 0 4 highlightStatus).Within (.mapOf Schema.highlightStatus) :=
    within_mapOf within_highlightStatus
  apply within_record
  simp [emptyListByDefault, falseByDefault, within_flag, huids, hrules, hhighlights]

/-! ## Configurations -/

theorem within_nodeDecorator : nodeDecorator.Within Schema.nodeDecorator := by
  apply within_ofTexts
  simp only [List.forall_mem_map]
  exact fun decorator _ => decorator.fits_name

theorem within_checkConfig : checkConfig.Within Schema.checkConfig := by
  apply within_record
  simp [nullable, template, within_text, within_optional]

theorem within_ruleConfig (id : String) : (ruleConfig id).Within Schema.ruleConfig := by
  have hid : (exactly (.string id)).Within .text := within_exactly (Fits.text id)
  have hguidance : (listOf 1 3 (ofTexts linkIds)).Within (.listOf .text) :=
    within_listOf (within_ofTexts fun held _ => Fits.text held)
  have hchecks : (listOf 1 3 checkConfig).Within (.listOf Schema.checkConfig) :=
    within_listOf within_checkConfig
  apply within_record
  simp [nullable, falseByDefault, within_text, within_flag, within_optional,
    within_nodeDecorator, hid, hguidance, hchecks]

/-- Made configurations have the form of configuration files. -/
theorem within_config : config.Within Schema.config := by
  have hrules : (listOf 0 ruleIds.length (anyOf (ruleIds.map ruleConfig))).Within
      (.listOf Schema.ruleConfig) :=
    within_listOf (within_anyOf (List.forall_mem_map.mpr fun id _ => within_ruleConfig id))
  have hlinks : (exactly (.array (BuiltIn.config.links.map LinkConfig.toJson))).Within
      (.listOf linkConfig) :=
    within_exactly (fits_array LinkConfig.fits_toJson _)
  have hdefaults : (exactly (.object [])).Within Schema.defaults :=
    within_exactly (Defaults.fits_toJson {})
  have hsuppression : (exactly (.object [])).Within suppressionConfig :=
    within_exactly (SuppressionConfig.fits_toJson {})
  apply within_record
  simp [emptyListByDefault, hrules, hlinks, hdefaults, hsuppression]

end Varieties
end AccessReport
