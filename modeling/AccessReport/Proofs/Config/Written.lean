import AccessReport.Config.Format
import AccessReport.Proofs.Json.Records
/-!
# Written configurations

Every part of a configuration is read back from the members that are written for it, whatever the
format counts as an empty payload: a name that stands for a value is always written plainly.

* `Config.ofDocument?_toJson`, `Config.exact_toJson`: a whole configuration.
-/
namespace AccessReport

open Document Json Fields

theorem NodeDecorator.ofDocument?_name (empty : Payload) (decorator : NodeDecorator) :
    ofDocument? empty (ofJson (.string decorator.name)) = some decorator := by
  cases decorator <;> rfl

theorem ConversionMode.ofDocument?_name (empty : Payload) (mode : ConversionMode) :
    ofDocument? empty (ofJson (.string mode.name)) = some mode := by
  cases mode <;> rfl

namespace Defaults

theorem ofDocument?_toJson (empty : Payload) (defaults : Defaults) :
    ofDocument? empty (ofJson defaults.toJson) = some defaults := by
  have hlisted := (Listed.ifSome "title" .string defaults.title).append
    (.ifSome "mode" (fun mode : ConversionMode => .string mode.name) defaults.mode)
  have hmode : readOr none (option? (ConversionMode.ofDocument? empty))
      (defaults.mode.map fun mode => .string mode.name) = some defaults.mode :=
    readOr_map (by simp [ofJson]) fun mode _ => mode.ofDocument?_name empty
  rw [ofDocument?, toJson, record?_written hlisted (by decide) (by decide)]
  simp [List.lookup_append, hmode]

theorem exact_toJson (defaults : Defaults) : Exact 1 defaults.toJson := by
  refine .object ?_
  simp only [List.forall_mem_append, forall_mem_memberIfSome]
  exact ⟨fun _ _ => .string .., fun _ _ => .string ..⟩

end Defaults

/-! ## Rules -/

namespace CheckConfig

theorem ofDocument?_toJson (check : CheckConfig) :
    ofDocument? (ofJson check.toJson) = some check := by
  have hlisted := ((Listed.member "id" (.string check.id)).append
    (.ifSome "pass_message" .string check.passMessage)).append
    (.ifSome "fail_message" .string check.failMessage)
  rw [ofDocument?, toJson, record?_written hlisted (by decide) (by decide)]
  simp [List.lookup_append]

theorem exact_toJson (check : CheckConfig) : Exact 1 check.toJson := by
  refine .object ?_
  simp only [List.forall_mem_append, forall_mem_member, forall_mem_memberIfSome]
  exact ⟨⟨.string .., fun _ _ => .string ..⟩, fun _ _ => .string ..⟩

end CheckConfig

namespace RuleConfig

theorem ofDocument?_toJson (empty : Payload) (rule : RuleConfig) :
    ofDocument? empty (ofJson rule.toJson) = some rule := by
  have hlisted := (((((((((Listed.member "id" (.string rule.id)).append
    (.ifSome "description" .string rule.description)).append
    (.ifSome "help" .string rule.help)).append
    (.ifSome "help_url" .string rule.helpUrl)).append
    (.ifSome "decorate_node" (fun decorator : NodeDecorator => .string decorator.name)
      rule.decorator)).append
    (.member "how_to_check" (.bool rule.howToCheck))).append
    (.ifAny "guidance" .string rule.guidance)).append
    (.member "best_practice" (.bool rule.bestPractice))).append
    (.ifAny "check" CheckConfig.toJson rule.checks))
  have hdecorator : readOr none (option? (NodeDecorator.ofDocument? empty))
      (rule.decorator.map fun decorator => .string decorator.name) = some rule.decorator :=
    readOr_map (by simp [ofJson]) fun decorator _ => decorator.ofDocument?_name empty
  have hchecks := readOr_any fun check (_ : check ∈ rule.checks) => check.ofDocument?_toJson
  rw [ofDocument?, toJson, record?_written hlisted (by decide) (by decide)]
  simp [List.lookup_append, hdecorator, hchecks]

theorem exact_toJson (rule : RuleConfig) : Exact 3 rule.toJson := by
  have hchecks : Exact 2 (.array (rule.checks.map CheckConfig.toJson)) :=
    exact_array fun check _ => check.exact_toJson
  refine .object ?_
  simp only [List.forall_mem_append, forall_mem_member, forall_mem_memberIfSome,
    forall_mem_memberIfAny]
  exact ⟨⟨⟨⟨⟨⟨⟨⟨.string .., fun _ _ => .string ..⟩, fun _ _ => .string ..⟩,
    fun _ _ => .string ..⟩, fun _ _ => .string ..⟩, .bool ..⟩, fun _ => exact_strings ..⟩,
    .bool ..⟩, fun _ => hchecks⟩

end RuleConfig

/-! ## Links and suppression -/

theorem LinkTagConfig.ofDocument?_toJson (tag : LinkTagConfig) :
    ofDocument? (ofJson tag.toJson) = some tag := by
  have hlisted : Listed ["id", "display_text"]
      [("id", Json.string tag.id), ("display_text", .string tag.displayText)] := .refl _
  rw [ofDocument?, toJson, record?_written hlisted (by decide) (by decide)]
  simp [Grouping.lookup_cons_eq]

theorem LinkTagConfig.exact_toJson (tag : LinkTagConfig) : Exact 1 tag.toJson :=
  .object (by simp [Exact.string])

namespace LinkConfig

theorem ofDocument?_toJson (link : LinkConfig) : ofDocument? (ofJson link.toJson) = some link := by
  have hlisted := (((Listed.member "id" (.string link.id)).append
    (.member "text" (.string link.text))).append
    (.member "href" (.string link.href))).append
    (.ifAny "tags" LinkTagConfig.toJson link.tags)
  have htags := readOr_any fun tag (_ : tag ∈ link.tags) => tag.ofDocument?_toJson
  rw [ofDocument?, toJson, record?_written hlisted (by decide) (by decide)]
  simp [List.lookup_append, htags]

theorem exact_toJson (link : LinkConfig) : Exact 3 link.toJson := by
  have htags : Exact 2 (.array (link.tags.map LinkTagConfig.toJson)) :=
    exact_array fun tag _ => tag.exact_toJson
  refine .object ?_
  simp only [List.forall_mem_append, forall_mem_member, forall_mem_memberIfAny]
  exact ⟨⟨⟨.string .., .string ..⟩, .string ..⟩, fun _ => htags⟩

end LinkConfig

theorem SuppressionConfig.ofDocument?_toJson (suppression : SuppressionConfig) :
    ofDocument? (ofJson suppression.toJson) = some suppression := by
  have hlisted := Listed.ifAny "messages" .string suppression.messages
  rw [ofDocument?, toJson, record?_written hlisted (by decide) (by decide)]
  simp

theorem SuppressionConfig.exact_toJson (suppression : SuppressionConfig) :
    Exact 2 suppression.toJson := by
  refine .object ?_
  simp only [forall_mem_memberIfAny]
  exact fun _ => exact_strings ..

/-! ## Configurations -/

namespace Config

theorem ofDocument?_toJson (empty : Payload) (config : Config) :
    ofDocument? empty (ofJson config.toJson) = some config := by
  have hlisted := ((((Listed.ifAny "includes" .string config.includes).append
    (.member "defaults" config.defaults.toJson)).append
    (.member "rule" (.array (config.rules.map RuleConfig.toJson)))).append
    (.member "link" (.array (config.links.map LinkConfig.toJson)))).append
    (.member "suppression" config.suppression.toJson)
  have hrules : list? (RuleConfig.ofDocument? empty)
      (ofJson (.array (config.rules.map RuleConfig.toJson))) = some config.rules :=
    list?_written fun rule _ => rule.ofDocument?_toJson empty
  have hlinks : list? LinkConfig.ofDocument?
      (ofJson (.array (config.links.map LinkConfig.toJson))) = some config.links :=
    list?_written fun link _ => link.ofDocument?_toJson
  rw [ofDocument?, toJson, record?_written hlisted (by decide) (by decide)]
  simp [List.lookup_append, config.defaults.ofDocument?_toJson, hrules, hlinks,
    config.suppression.ofDocument?_toJson]

theorem exact_toJson (config : Config) : Exact 5 config.toJson := by
  have hdefaults : Exact 4 config.defaults.toJson := config.defaults.exact_toJson.mono (by omega)
  have hrules : Exact 4 (.array (config.rules.map RuleConfig.toJson)) :=
    exact_array fun rule _ => rule.exact_toJson
  have hlinks : Exact 4 (.array (config.links.map LinkConfig.toJson)) :=
    exact_array fun link _ => link.exact_toJson
  have hsuppression : Exact 4 config.suppression.toJson :=
    config.suppression.exact_toJson.mono (by omega)
  refine .object ?_
  simp only [List.forall_mem_append, forall_mem_member, forall_mem_memberIfAny]
  exact ⟨⟨⟨⟨fun _ => exact_strings .., hdefaults⟩, hrules⟩, hlinks⟩, hsuppression⟩

end Config
end AccessReport
