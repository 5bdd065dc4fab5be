import AccessReport.Proofs.Decoration.Shape
/-!
# Decorated results stay as they are

A rule result is settled for a bucket if decoration has nothing left to do on it: configured texts
and messages are in place, every node has the snippet that its rule asks for, no `any` check is
suppressed, no node is without checks, and outside the inapplicable bucket there is a node.

* `decorateRule?_settled`: what decoration keeps is settled.
* `decorateRule?_of_settled`: decoration keeps a settled rule result, unchanged.
* `decorate_asEngineScan`: a decorated scan that is handed in again comes out as it went in.

The snippet is the delicate part. It is made up before suppression, from checks that may be gone
afterwards, so it could not be made up again from what is left; it only stays because a snippet
that is there is never replaced.
-/
namespace AccessReport

/-! ## Checks and nodes -/

/-- The message that is configured for the check, if any, is its message. -/
def Check.HasConfiguredMessage (config : Option CompiledRule) (check : Check) : Prop :=
  ∀ message, check.configuredMessage? config = some message → check.message = message

theorem Check.withMessage_configured (config : Option CompiledRule) (check : Check) :
    (check.withMessage config).HasConfiguredMessage config := by
  intro message h
  have h : check.configuredMessage? config = some message := h
  simp [Check.withMessage, h]

theorem Check.withMessage_of_configured {config : Option CompiledRule} {check : Check}
    (h : check.HasConfiguredMessage config) : check.withMessage config = check := by
  unfold Check.withMessage
  cases hm : check.configuredMessage? config with
  | none => rfl
  | some message => simp [← h message hm]

/-- Nothing is left to do on a node of a rule that is configured as given. -/
structure Node.Settled (suppression : SuppressionList) (config : Option CompiledRule)
    (node : Node) : Prop where
  messages : ∀ check ∈ node.checks, check.HasConfiguredMessage config
  snippet : (config.bind (·.decorator)).isSome = true → node.snippet.isSome = true
  unsuppressed : ∀ check ∈ node.anyChecks, suppression.isSuppressed check.message = false
  nonempty : node.isEmpty = false

namespace Registries

/-- A node whose messages and snippet are in place is not changed. -/
theorem decorateNode_eq_self {config : Option CompiledRule} {node : Node}
    (hm : ∀ check ∈ node.checks, check.HasConfiguredMessage config)
    (hs : (config.bind (·.decorator)).isSome = true → node.snippet.isSome = true) :
    decorateNode config node = node := by
  have same : ∀ checks : List Check, checks ⊆ node.checks →
      checks.map (Check.withMessage config) = checks := by
    intro checks hsub
    refine (List.map_congr_left fun check hc => ?_).trans (List.map_id' checks)
    exact Check.withMessage_of_configured (hm check (hsub hc))
  have hw : node.withMessages config = node := by
    simp only [Node.withMessages]
    rw [same node.anyChecks (by intro c hc; simp [Node.checks, hc]),
      same node.allChecks (by intro c hc; simp [Node.checks, hc]),
      same node.noneChecks (by intro c hc; simp [Node.checks, hc])]
  unfold decorateNode
  split
  · rename_i decorator hd
    obtain ⟨snippet, h⟩ := Option.isSome_iff_exists.mp (hs (by simp [hd]))
    rw [hw, Node.decorate_snippet decorator node snippet h]
  · exact hw

end Registries

/-! ## Suppression -/

namespace SuppressionList

theorem filterNode_eq_self {suppressed : SuppressionList} {node : Node}
    (h : ∀ check ∈ node.anyChecks, suppressed.isSuppressed check.message = false) :
    suppressed.filterNode node = node := by
  have hf : node.anyChecks.filter (fun check => !suppressed.isSuppressed check.message)
      = node.anyChecks := by
    rw [List.filter_eq_self]
    intro check hc
    simp [h check hc]
  simp only [filterNode, hf]

theorem keptNodes_eq_self {suppressed : SuppressionList} {nodes : List Node}
    (hs : ∀ node ∈ nodes, ∀ check ∈ node.anyChecks,
      suppressed.isSuppressed check.message = false)
    (he : ∀ node ∈ nodes, node.isEmpty = false) : suppressed.keptNodes nodes = nodes := by
  have hmap : nodes.map suppressed.filterNode = nodes :=
    (List.map_congr_left fun node hn => filterNode_eq_self (hs node hn)).trans
      (List.map_id' nodes)
  rw [keptNodes, hmap, List.filter_eq_self]
  intro node hn
  simp [he node hn]

end SuppressionList

/-! ## Rule results -/

/-- Nothing is left to do on a rule result in a bucket. -/
structure RuleResult.Settled (registries : Registries) (bucket : Bucket) (rule : RuleResult) :
    Prop where
  description : ∀ text, (registries.rules.get? rule.id).bind (·.description) = some text →
    rule.description = text
  help : ∀ text, (registries.rules.get? rule.id).bind (·.help) = some text → rule.help = text
  helpUrl : ∀ text, (registries.rules.get? rule.id).bind (·.helpUrl) = some text →
    rule.helpUrl = text
  guidance : rule.guidanceLinks = registries.guidance.linksFor? rule.id
  nodes : ∀ node ∈ rule.nodes,
    node.Settled registries.suppression (registries.rules.get? rule.id)
  kept : bucket ≠ .inapplicable → rule.nodes ≠ []

namespace Registries

theorem nodesAfter_settled (registries : Registries) (rule : RuleResult) (node : Node)
    (h : node ∈ registries.nodesAfter rule) :
    node.Settled registries.suppression (registries.rules.get? rule.id) := by
  rw [nodesAfter_eq] at h
  obtain ⟨raw, hraw, rfl⟩ := List.mem_map.mp h
  have he : (registries.nodeAfter rule.id raw).isEmpty = false := by
    simpa using (List.mem_filter.mp hraw).2
  refine ⟨?_, ?_, SuppressionList.filterNode_unsuppressed _ _, he⟩
  · intro check hc
    have hc := SuppressionList.checks_filterNode_subset _ _ hc
    rw [decorateNode_checks] at hc
    obtain ⟨before, -, rfl⟩ := List.mem_map.mp hc
    exact Check.withMessage_configured _ before
  · intro hd
    rw [nodeAfter, SuppressionList.filterNode_snippet, decorateNode_snippet, Option.isSome_or,
      Option.isSome_map, hd, Bool.or_true]

theorem decorateRule?_settled {registries : Registries} {bucket : Bucket}
    {rule result : RuleResult} (h : registries.decorateRule? bucket rule = some result) :
    result.Settled registries bucket := by
  rw [decorateRule?_eq] at h
  split at h
  · cases h
  · rename_i hkept
    cases h
    refine ⟨?_, ?_, ?_, rfl, nodesAfter_settled registries rule, ?_⟩
    · intro text ht
      have ht : (registries.rules.get? rule.id).bind (·.description) = some text := ht
      simp [decorated, attachLinks, decorateTexts, ht]
    · intro text ht
      have ht : (registries.rules.get? rule.id).bind (·.help) = some text := ht
      simp [decorated, attachLinks, decorateTexts, ht]
    · intro text ht
      have ht : (registries.rules.get? rule.id).bind (·.helpUrl) = some text := ht
      simp [decorated, attachLinks, decorateTexts, helpUrl, ht]
    · intro hb hn
      exact hkept ⟨hb, hn⟩

/-- A text that is the configured one, if there is one, is not changed by configuring it. -/
theorem getD_of_configured {configured : Option String} {text : String}
    (h : ∀ other, configured = some other → text = other) : configured.getD text = text := by
  cases configured with
  | none => rfl
  | some other => exact (h other rfl).symm

theorem decorateRule?_of_settled {registries : Registries} {bucket : Bucket} {rule : RuleResult}
    (h : rule.Settled registries bucket) : registries.decorateRule? bucket rule = some rule := by
  have hraw : rule.nodes.map (decorateNode (registries.rules.get? rule.id)) = rule.nodes := by
    refine (List.map_congr_left fun node hn => ?_).trans (List.map_id' rule.nodes)
    exact decorateNode_eq_self (h.nodes node hn).messages (h.nodes node hn).snippet
  have hnodes : registries.nodesAfter rule = rule.nodes := by
    rw [nodesAfter, hraw]
    exact SuppressionList.keptNodes_eq_self (fun node hn => (h.nodes node hn).unsuppressed)
      fun node hn => (h.nodes node hn).nonempty
  rw [decorateRule?_eq, hnodes, if_neg fun hc => h.kept hc.1 hc.2]
  simp only [decorated, attachLinks, decorateTexts, helpUrl, hnodes, Option.bind_some,
    getD_of_configured h.description, getD_of_configured h.help, getD_of_configured h.helpUrl,
    ← h.guidance]

/-- A bucket of settled rule results is not changed. -/
theorem decorateBucket_eq_self {registries : Registries} {bucket : Bucket}
    {rules : List RuleResult} (h : ∀ rule ∈ rules, rule.Settled registries bucket) :
    registries.decorateBucket bucket rules = rules := by
  induction rules with
  | nil => rfl
  | cons rule rest ih =>
    rw [decorateBucket, List.filterMap_cons_some (decorateRule?_of_settled (h rule (by simp)))]
    congr 1
    exact ih fun other ho => h other (List.mem_cons_of_mem _ ho)

theorem decorateBucket_settled (registries : Registries) (bucket : Bucket)
    (rules : List RuleResult) :
    ∀ rule ∈ registries.decorateBucket bucket rules, rule.Settled registries bucket := by
  intro rule hr
  obtain ⟨raw, -, hraw⟩ := List.mem_filterMap.mp hr
  exact decorateRule?_settled hraw

end Registries

/-! ## Scans -/

/-- The results of a scan as if an engine handed them over. -/
def ScanResults.asEngineScan (scan : ScanResults) : EngineScan where
  toBuckets := scan.toBuckets
  timestamp := .text scan.timestamp
  url := scan.targetPageUrl

theorem Buckets.map_eq_self {change : Bucket → List RuleResult → List RuleResult}
    {buckets : Buckets} (h : ∀ bucket, change bucket (buckets.get bucket) = buckets.get bucket) :
    buckets.map change = buckets := by
  have h1 := h .passes
  have h2 := h .violations
  have h3 := h .incomplete
  have h4 := h .inapplicable
  simp only [Buckets.get] at h1 h2 h3 h4
  simp only [Buckets.map, h1, h2, h3, h4]

/-- **Decoration settles in one step**, with whatever registries and under whatever title: the
decorated results of any engine output, handed in as engine output, come out unchanged. -/
theorem Registries.decorate_asEngineScan (registries : Registries) (title : String)
    (engine : EngineScan) :
    registries.decorate title (registries.decorate title engine).asEngineScan
      = registries.decorate title engine := by
  have hbuckets : (registries.decorate title engine).toBuckets.map registries.decorateBucket
      = (registries.decorate title engine).toBuckets := by
    refine Buckets.map_eq_self fun bucket => decorateBucket_eq_self ?_
    rw [decorate, Buckets.get_map]
    exact decorateBucket_settled registries bucket _
  calc registries.decorate title (registries.decorate title engine).asEngineScan
      = { registries.decorate title engine with
          toBuckets := (registries.decorate title engine).toBuckets.map
            registries.decorateBucket } := rfl
    _ = registries.decorate title engine := by rw [hbuckets]

end AccessReport
