import AccessReport.Proofs.Decoration.Shape
import Mathlib.Data.List.Forall2
/-!
# What decoration leaves as it was

Decoration changes texts and takes things away. What is left stands in the engine's order, beside
what the engine gave: a rule result that is kept beside the engine's, a node that keeps a check
beside the engine's node, a check that is not suppressed beside the engine's check. `Becomes` says
for each of the three what may be different afterwards, and where it comes from.

* `Registries.nodeAfter_eq`: everything that happens to a node.
* `Registries.node_becomes`, `Registries.rule_becomes`: nodes and rule results one by one.
* `Registries.decorateBucket_eq`: the rule results of a bucket, without those that are left out.
* `Registries.decorate_becomes`: every bucket of a decorated scan.

Whether a check is suppressed depends on the message that it has after decoration, so a check may
become suppressible, or stop to be, by its template.
-/
namespace AccessReport

namespace Registries

variable (registries : Registries)

/-! ## What is kept -/

/-- The message of a check: the configured one for its outcome and data, else the engine's. -/
def finalMessage (ruleId : String) (check : Check) : String :=
  let messages := (registries.rules.get? ruleId).bind fun rule =>
    rule.checks.find? (·.id == check.id)
  let template := messages.bind fun messages =>
    if check.result then messages.pass else messages.fail
  match template with
  | some template => template.render check.data
  | none => check.message

/-- The `any` checks of a node that are not suppressed. -/
def keptAny (ruleId : String) (node : Node) : List Check :=
  node.anyChecks.filter fun check =>
    !registries.suppression.isSuppressed (registries.finalMessage ruleId check)

/-- Whether a node keeps a check. -/
def keepsNode (ruleId : String) (node : Node) : Bool :=
  !(registries.keptAny ruleId node ++ node.allChecks ++ node.noneChecks).isEmpty

/-- Whether a rule result is kept: in the inapplicable bucket always, else for a node that is. -/
def keepsRule (bucket : Bucket) (rule : RuleResult) : Bool :=
  bucket == .inapplicable || rule.nodes.any (registries.keepsNode rule.id)

/-- Whether snippets are made up for the nodes of a rule. -/
def makesSnippets (ruleId : String) : Bool :=
  ((registries.rules.get? ruleId).bind (·.decorator)).isSome

end Registries

/-- What a check has become. -/
structure Check.Becomes (registries : Registries) (ruleId : String) (check after : Check) :
    Prop where
  id : after.id = check.id
  data : after.data = check.data
  result : after.result = check.result
  message : after.message = registries.finalMessage ruleId check

/-- What a node that keeps a check has become. -/
structure Node.Becomes (registries : Registries) (ruleId : String) (node after : Node) :
    Prop where
  target : after.target = node.target
  html : after.html = node.html
  failureSummary : after.failureSummary = node.failureSummary
  anyChecks : List.Forall₂ (Check.Becomes registries ruleId) (registries.keptAny ruleId node)
    after.anyChecks
  allChecks : List.Forall₂ (Check.Becomes registries ruleId) node.allChecks after.allChecks
  noneChecks : List.Forall₂ (Check.Becomes registries ruleId) node.noneChecks after.noneChecks
  checked : after.checks ≠ []
  supplied : ∀ snippet, node.snippet = some snippet → after.snippet = some snippet
  made : node.snippet = none →
    (after.snippet.isSome = true ↔ registries.makesSnippets ruleId = true)

/-- What a rule result that is kept has become. -/
structure RuleResult.Becomes (registries : Registries) (rule after : RuleResult) : Prop where
  id : after.id = rule.id
  description : after.description
    = ((registries.rules.get? rule.id).bind (·.description)).getD rule.description
  help : after.help = ((registries.rules.get? rule.id).bind (·.help)).getD rule.help
  helpUrl : after.helpUrl = ((registries.rules.get? rule.id).bind (·.helpUrl)).getD rule.helpUrl
  guidanceLinks : after.guidanceLinks = registries.guidance.linksFor? rule.id
  nodes : List.Forall₂ (Node.Becomes registries rule.id)
    (rule.nodes.filter (registries.keepsNode rule.id)) after.nodes

namespace Registries

variable (registries : Registries)

/-! ## Checks and nodes -/

theorem message_withMessage (ruleId : String) (check : Check) :
    (check.withMessage (registries.rules.get? ruleId)).message
      = registries.finalMessage ruleId check := by
  simp only [Check.withMessage, Check.configuredMessage?, finalMessage, CompiledRule.check?]
  cases (registries.rules.get? ruleId).bind fun rule => rule.checks.find? (·.id == check.id) with
  | none => rfl
  | some messages =>
    simp only [Option.bind_some, CompiledCheck.message?]
    cases (if check.result then messages.pass else messages.fail) <;> rfl

theorem check_becomes (ruleId : String) (check : Check) :
    check.Becomes registries ruleId (check.withMessage (registries.rules.get? ruleId)) where
  id := rfl
  data := rfl
  result := rfl
  message := registries.message_withMessage ruleId check

theorem checks_become (ruleId : String) (checks : List Check) :
    List.Forall₂ (Check.Becomes registries ruleId) checks
      (checks.map (Check.withMessage (registries.rules.get? ruleId))) := by
  rw [List.forall₂_map_right_iff, List.forall₂_same]
  exact fun check _ => registries.check_becomes ruleId check

/-- Everything that happens to a node. -/
theorem nodeAfter_eq (ruleId : String) (node : Node) :
    registries.nodeAfter ruleId node
      = { node with
          snippet := (decorateNode (registries.rules.get? ruleId) node).snippet
          anyChecks := (registries.keptAny ruleId node).map
            (Check.withMessage (registries.rules.get? ruleId))
          allChecks := node.allChecks.map (Check.withMessage (registries.rules.get? ruleId))
          noneChecks := node.noneChecks.map
            (Check.withMessage (registries.rules.get? ruleId)) } := by
  rw [nodeAfter, decorateNode_frame]
  simp only [SuppressionList.filterNode, Node.withMessages]
  rw [List.filter_map]
  simp only [keptAny, ← message_withMessage, Function.comp_def]

theorem isEmpty_nodeAfter_eq (ruleId : String) (node : Node) :
    (!(registries.nodeAfter ruleId node).isEmpty) = registries.keepsNode ruleId node := by
  rw [nodeAfter_eq]
  simp only [Node.isEmpty, Node.checkCount, List.length_map, keepsNode]
  rw [Bool.eq_iff_iff]
  simp [and_assoc]

theorem node_becomes {ruleId : String} {node : Node}
    (h : registries.keepsNode ruleId node = true) :
    node.Becomes registries ruleId (registries.nodeAfter ruleId node) := by
  have hchecked : (registries.nodeAfter ruleId node).checks ≠ [] := by
    rw [← isEmpty_nodeAfter_eq, Node.isEmpty, ← Node.checks_length] at h
    simpa using h
  have hsnippet : (registries.nodeAfter ruleId node).snippet = _ :=
    (congrArg Node.snippet (registries.nodeAfter_eq ruleId node)).trans
      (decorateNode_snippet (registries.rules.get? ruleId) node)
  rw [nodeAfter_eq] at hchecked hsnippet ⊢
  refine ⟨rfl, rfl, rfl, checks_become .., checks_become .., checks_become .., hchecked, ?_, ?_⟩
  · intro snippet hs
    rw [hsnippet, hs, Option.some_or]
  · intro hs
    rw [hsnippet, hs, Option.none_or, Option.isSome_map, makesSnippets]

/-! ## Rule results -/

theorem nodesAfter_eq_map (rule : RuleResult) :
    registries.nodesAfter rule
      = (rule.nodes.filter (registries.keepsNode rule.id)).map (registries.nodeAfter rule.id) := by
  rw [nodesAfter_eq]
  simp only [isEmpty_nodeAfter_eq]

theorem rule_becomes (rule : RuleResult) :
    rule.Becomes registries (registries.decorated rule) where
  id := rfl
  description := rfl
  help := rfl
  helpUrl := rfl
  guidanceLinks := rfl
  nodes := by
    change List.Forall₂ _ _ (registries.nodesAfter rule)
    rw [nodesAfter_eq_map, List.forall₂_map_right_iff, List.forall₂_same]
    exact fun node hn => registries.node_becomes (List.mem_filter.mp hn).2

/-- A rule result is left out if no node keeps a check, except in the inapplicable bucket. -/
theorem keepsRule_eq_false_iff {bucket : Bucket} {rule : RuleResult} :
    registries.keepsRule bucket rule = false ↔
      bucket ≠ .inapplicable ∧ registries.nodesAfter rule = [] := by
  rw [keepsRule, Bool.or_eq_false_iff, beq_eq_false_iff_ne, nodesAfter_eq_map, List.map_eq_nil_iff,
    List.filter_eq_nil_iff, List.any_eq_false]

/-- The rule results of a bucket, without those that are left out. -/
theorem decorateBucket_eq (bucket : Bucket) (rules : List RuleResult) :
    registries.decorateBucket bucket rules
      = (rules.filter (registries.keepsRule bucket)).map registries.decorated := by
  induction rules with
  | nil => rfl
  | cons rule rest ih =>
    rw [decorateBucket] at ih ⊢
    rw [List.filterMap_cons, decorateRule?_eq, List.filter_cons]
    cases hk : registries.keepsRule bucket rule with
    | false =>
      rw [if_pos (registries.keepsRule_eq_false_iff.mp hk)]
      exact ih
    | true =>
      have hkept : ¬ (bucket ≠ .inapplicable ∧ registries.nodesAfter rule = []) := by
        rw [← keepsRule_eq_false_iff, hk]
        decide
      rw [if_neg hkept]
      exact congrArg (registries.decorated rule :: ·) ih

/-- **Fidelity.** In every bucket of a decorated scan the rule results stand, in the engine's
order, for those of the engine that are not left out, and none of the inapplicable ones is. -/
theorem decorate_becomes (title : String) (engine : EngineScan) (bucket : Bucket) :
    List.Forall₂ (RuleResult.Becomes registries)
        ((engine.toBuckets.get bucket).filter (registries.keepsRule bucket))
        ((registries.decorate title engine).toBuckets.get bucket) ∧
      (bucket = .inapplicable →
        ((registries.decorate title engine).toBuckets.get bucket).length
          = (engine.toBuckets.get bucket).length) := by
  rw [decorate, Buckets.get_map]
  constructor
  · rw [decorateBucket_eq, List.forall₂_map_right_iff, List.forall₂_same]
    exact fun rule _ => registries.rule_becomes rule
  · rintro rfl
    exact registries.decorateBucket_inapplicable _

end Registries
end AccessReport
