import AccessReport.Decoration.Results
/-!
# Registries that answer alike

Registries are only ever asked by id: for the texts and hooks of a rule, for the messages of one of
its checks, for its guidance, and whether a message is suppressed. Two that answer alike decorate
alike, whatever the order is in which they hold their entries.

* `Registries.AlikeAt`, `Registries.Alike`: the answers that count, for one rule and for all.
* `Registries.decorateRule?_alike`: one rule result is decorated the same.
* `Registries.decorate_alike`: decorated scans are the same.
-/
namespace AccessReport

/-- Two compiled rules answer alike. Their checks are looked up by id only. -/
structure CompiledRule.Alike (rule other : CompiledRule) : Prop where
  description : rule.description = other.description
  help : rule.help = other.help
  helpUrl : rule.helpUrl = other.helpUrl
  decorator : rule.decorator = other.decorator
  howToCheck : rule.howToCheck = other.howToCheck
  check? : ∀ checkId, rule.check? checkId = other.check? checkId

/-- Two registries answer alike. -/
structure Registries.Alike (registries other : Registries) : Prop where
  rules : ∀ ruleId,
    Option.Rel CompiledRule.Alike (registries.rules.get? ruleId) (other.rules.get? ruleId)
  guidance : ∀ ruleId, registries.guidance.linksFor? ruleId = other.guidance.linksFor? ruleId
  suppression : ∀ message,
    registries.suppression.isSuppressed message = other.suppression.isSuppressed message

/-- Two registries answer alike about one rule, whatever they say about others. -/
structure Registries.AlikeAt (ruleId : String) (registries other : Registries) : Prop where
  rule : Option.Rel CompiledRule.Alike (registries.rules.get? ruleId) (other.rules.get? ruleId)
  guidance : registries.guidance.linksFor? ruleId = other.guidance.linksFor? ruleId
  suppression : ∀ message,
    registries.suppression.isSuppressed message = other.suppression.isSuppressed message

theorem Registries.Alike.at {registries other : Registries} (h : registries.Alike other)
    (ruleId : String) : AlikeAt ruleId registries other :=
  ⟨h.rules ruleId, h.guidance ruleId, h.suppression⟩

/-- Of a list of messages only what it suppresses counts. -/
theorem Registries.alike_of_suppression {rules : RuleRegistry} {guidance : GuidanceRegistry}
    {suppressed other : SuppressionList}
    (h : ∀ message, suppressed.isSuppressed message = other.isSuppressed message) :
    Alike ⟨rules, guidance, suppressed⟩ ⟨rules, guidance, other⟩ where
  rules ruleId := by
    cases hrule : rules.get? ruleId with
    | none => exact .none
    | some rule => exact .some ⟨rfl, rfl, rfl, rfl, rfl, fun _ => rfl⟩
  guidance _ := rfl
  suppression := h

/-! ## Rules -/

section
variable {rule other : Option CompiledRule} (h : Option.Rel CompiledRule.Alike rule other)

include h in
/-- Whatever is read off two rules, if they agree on it, is the same where there may be none. -/
theorem CompiledRule.bind_alike {α : Type} (read : CompiledRule → Option α)
    (hread : ∀ rule other : CompiledRule, rule.Alike other → read rule = read other) :
    rule.bind read = other.bind read := by
  cases h with
  | none => rfl
  | some halike => exact hread _ _ halike

include h in
theorem Check.withMessage_alike : withMessage rule = withMessage other := by
  funext check
  have hmessage : check.configuredMessage? rule = check.configuredMessage? other := by
    have hcheck := CompiledRule.bind_alike h (·.check? check.id) fun _ _ halike =>
      halike.check? check.id
    rw [configuredMessage?, configuredMessage?, hcheck]
  rw [withMessage, withMessage, hmessage]

include h in
theorem Registries.decorateNode_alike : decorateNode rule = decorateNode other := by
  funext node
  have hdecorator := CompiledRule.bind_alike h (·.decorator) fun _ _ halike => halike.decorator
  have hmessages : node.withMessages rule = node.withMessages other := by
    rw [Node.withMessages, Node.withMessages, Check.withMessage_alike h]
  rw [decorateNode, decorateNode, hdecorator, hmessages]

end

/-! ## Suppression -/

theorem SuppressionList.suppress_alike {suppressed other : SuppressionList}
    (h : ∀ message, suppressed.isSuppressed message = other.isSuppressed message) :
    suppressed.suppress = other.suppress := by
  have hnode : suppressed.filterNode = other.filterNode := by
    funext node
    simp only [filterNode, h]
  have hkept : suppressed.keptNodes = other.keptNodes := by
    funext nodes
    rw [keptNodes, keptNodes, hnode]
  funext rule removeEmpty
  rw [suppress, suppress, hkept]

/-! ## Rule results -/

section
variable {registries other : Registries} {rule : RuleResult}
  (h : Registries.AlikeAt rule.id registries other)

namespace Registries

include h in
theorem decorateTexts_alike : registries.decorateTexts rule = other.decorateTexts rule := by
  have hdescription := CompiledRule.bind_alike h.rule (·.description) fun _ _ halike =>
    halike.description
  have hhelp := CompiledRule.bind_alike h.rule (·.help) fun _ _ halike => halike.help
  simp only [decorateTexts, hdescription, hhelp, decorateNode_alike h.rule]

include h in
theorem attachLinks_alike : registries.attachLinks rule = other.attachLinks rule := by
  have hurl := CompiledRule.bind_alike h.rule (·.helpUrl) fun _ _ halike => halike.helpUrl
  simp only [attachLinks, helpUrl, Option.bind_some, h.guidance, hurl]

end Registries

end

/-! ## Scans -/

section
variable {registries other : Registries}

namespace Registries

theorem decorateRule?_alike {rule : RuleResult} (h : AlikeAt rule.id registries other)
    (bucket : Bucket) :
    registries.decorateRule? bucket rule = other.decorateRule? bucket rule := by
  rw [decorateRule?, decorateRule?, decorateTexts_alike h,
    SuppressionList.suppress_alike h.suppression]
  refine Option.map_congr fun kept hkept => ?_
  -- Suppression takes nodes away, so links are attached under the id that was decorated.
  have hid : kept.id = rule.id := by
    unfold SuppressionList.suppress at hkept
    dsimp only at hkept
    split at hkept
    · cases hkept
    · cases hkept
      rfl
  exact attachLinks_alike (hid ▸ h)

theorem decorate_alike (h : registries.Alike other) (title : String) (engine : EngineScan) :
    registries.decorate title engine = other.decorate title engine := by
  have hbucket : registries.decorateBucket = other.decorateBucket := by
    funext bucket rules
    have hrule : registries.decorateRule? bucket = other.decorateRule? bucket := by
      funext rule
      exact decorateRule?_alike (h.at rule.id) bucket
    rw [decorateBucket, decorateBucket, hrule]
  rw [decorate, decorate, hbucket]

end Registries

end

end AccessReport
