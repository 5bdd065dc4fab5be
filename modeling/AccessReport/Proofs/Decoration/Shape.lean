import AccessReport.Decoration.Results
/-!
# The shape of decorated results

Decoration works on one rule result at a time and on one node at a time. A node gets its messages
and its snippet, then loses suppressed checks; it is left out if no check is left. A rule result is
left out if no node is left, except in the inapplicable bucket.

* `suppress_eq`, `decorateRule?_eq`: what becomes of a rule result, and when it is dropped.
* `nodesAfter_eq`: its nodes afterwards are those that keep a check, each on its own.
* `decorateBucket_flatMap`: a walk over the nodes of a decorated bucket is a walk over the nodes
  that are left of the engine's; dropping rules loses none of them.
-/
namespace AccessReport

/-! ## Nodes -/

namespace Registries

/-- Only the snippet depends on the decorator. -/
theorem decorateNode_frame (config : Option CompiledRule) (node : Node) :
    decorateNode config node
      = { node.withMessages config with snippet := (decorateNode config node).snippet } := by
  unfold decorateNode
  split <;> rfl

theorem decorateNode_checks (config : Option CompiledRule) (node : Node) :
    (decorateNode config node).checks = node.checks.map (Check.withMessage config) := by
  rw [decorateNode_frame]
  simp [Node.withMessages, Node.checks]

/-- The engine's snippet comes first, and without it the decorator's. -/
theorem decorateNode_snippet (config : Option CompiledRule) (node : Node) :
    (decorateNode config node).snippet
      = node.snippet.or ((config.bind (·.decorator)).map (node.withMessages config).summary) := by
  unfold decorateNode
  cases config.bind (·.decorator) with
  | none =>
    rw [Option.map_none, Option.or_none]
    rfl
  | some decorator =>
    change some (node.snippet.getD ((node.withMessages config).summary decorator)) = _
    cases node.snippet <;> rfl

end Registries

/-! ## Suppression -/

namespace SuppressionList

theorem filterNode_snippet (suppressed : SuppressionList) (node : Node) :
    (suppressed.filterNode node).snippet = node.snippet := rfl

/-- Suppression takes checks away and adds none. -/
theorem checks_filterNode_subset (suppressed : SuppressionList) (node : Node) :
    (suppressed.filterNode node).checks ⊆ node.checks := by
  intro check hc
  simp only [Node.checks, filterNode, List.mem_append, List.mem_filter] at hc ⊢
  rcases hc with (hc | hc) | hc
  · exact .inl (.inl hc.1)
  · exact .inl (.inr hc)
  · exact .inr hc

/-- A rule result is dropped only if it has no node left and is not in the inapplicable bucket. -/
theorem suppress_eq (suppressed : SuppressionList) (bucket : Bucket) (rule : RuleResult) :
    suppressed.suppress rule (Registries.removesEmpty bucket)
      = if bucket ≠ .inapplicable ∧ suppressed.keptNodes rule.nodes = [] then none
        else some { rule with nodes := suppressed.keptNodes rule.nodes } := by
  simp only [suppress, Registries.removesEmpty, Bool.and_eq_true, bne_iff_ne, List.isEmpty_iff]

theorem filterNode_unsuppressed (suppressed : SuppressionList) (node : Node) :
    ∀ check ∈ (suppressed.filterNode node).anyChecks,
      suppressed.isSuppressed check.message = false := by
  intro check hc
  simpa using (List.mem_filter.mp hc).2

end SuppressionList

/-! ## Rule results -/

namespace Registries

/-- A node of a rule after decoration. -/
def nodeAfter (registries : Registries) (ruleId : String) (node : Node) : Node :=
  registries.suppression.filterNode (decorateNode (registries.rules.get? ruleId) node)

/-- The nodes of a rule result after decoration, in the engine's order. -/
def nodesAfter (registries : Registries) (rule : RuleResult) : List Node :=
  registries.suppression.keptNodes
    (rule.nodes.map (decorateNode (registries.rules.get? rule.id)))

/-- A rule result after decoration, with the nodes that it has then. -/
def decorated (registries : Registries) (rule : RuleResult) : RuleResult :=
  registries.attachLinks { registries.decorateTexts rule with nodes := registries.nodesAfter rule }

/-- What is dropped is what suppression drops, and all else is decorated. -/
theorem decorateRule?_eq (registries : Registries) (bucket : Bucket) (rule : RuleResult) :
    registries.decorateRule? bucket rule
      = if bucket ≠ .inapplicable ∧ registries.nodesAfter rule = [] then none
        else some (registries.decorated rule) := by
  rw [decorateRule?, SuppressionList.suppress_eq]
  change Option.map _ (if bucket ≠ .inapplicable ∧ registries.nodesAfter rule = [] then _ else _)
    = _
  split <;> rfl

theorem nodesAfter_eq (registries : Registries) (rule : RuleResult) :
    registries.nodesAfter rule
      = (rule.nodes.filter fun node => !(registries.nodeAfter rule.id node).isEmpty).map
          (registries.nodeAfter rule.id) := by
  rw [nodesAfter, SuppressionList.keptNodes, List.map_map, List.filter_map]
  rfl

theorem decorateBucket_flatMap {α : Type} (registries : Registries) (bucket : Bucket)
    (rules : List RuleResult) (f : RuleResult → Node → α) :
    ((registries.decorateBucket bucket rules).flatMap fun rule => rule.nodes.map (f rule))
      = rules.flatMap fun rule =>
          (registries.nodesAfter rule).map (f (registries.decorated rule)) := by
  induction rules with
  | nil => rfl
  | cons rule rest ih =>
    rw [decorateBucket] at ih ⊢
    rw [List.filterMap_cons, decorateRule?_eq, List.flatMap_cons]
    split
    · rename_i hdrop
      split at hdrop
      · rename_i hnone
        rw [ih, hnone.2]
        rfl
      · cases hdrop
    · rename_i kept hkept
      split at hkept
      · cases hkept
      · cases hkept
        rw [List.flatMap_cons, ih]
        rfl

end Registries
end AccessReport
