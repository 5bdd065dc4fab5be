import AccessReport.Decoration.Node
import AccessReport.Decoration.Timestamp
import AccessReport.Registry.Basic
/-!
# Decorating scans

The raw output of an engine becomes the results of a scan. Bucket by bucket, each rule result gets
the configured messages, snippets, description and help; then suppressed checks go, and with them
nodes and rules that have nothing left; then the rule gets its guidance and its address of help.
Rules and nodes keep the engine's order. Inapplicable rules have no nodes anyway and are always
kept.

Results:
* `decorateBucket_inapplicable`: no inapplicable rule is dropped.
-/
namespace AccessReport

namespace Registries

/-- A node with what a configured rule adds to it. -/
def decorateNode (config : Option CompiledRule) (node : Node) : Node :=
  match config.bind (·.decorator) with
  | some decorator => (node.withMessages config).decorate decorator
  | none => node.withMessages config

/-- A rule result with the configured texts. Links that the engine gave are discarded. -/
def decorateTexts (registries : Registries) (rule : RuleResult) : RuleResult :=
  let config := registries.rules.get? rule.id
  { id := rule.id
    description := (config.bind (·.description)).getD rule.description
    help := (config.bind (·.help)).getD rule.help
    helpUrl := rule.helpUrl
    nodes := rule.nodes.map (decorateNode config)
    guidanceLinks := none }

/-- A rule result with its guidance and its address of help (`attach_links`). -/
def attachLinks (registries : Registries) (rule : RuleResult) : RuleResult :=
  { rule with
    guidanceLinks := registries.guidance.linksFor? rule.id
    helpUrl := helpUrl (some registries.rules) rule.id rule.helpUrl }

/-- Rules that are left without nodes are dropped, but not where they never have any. -/
def removesEmpty (bucket : Bucket) : Bool := bucket != .inapplicable

/-- A rule result after decoration, if it is kept (`decorate_rule`). -/
def decorateRule? (registries : Registries) (bucket : Bucket) (rule : RuleResult) :
    Option RuleResult :=
  (registries.suppression.suppress (registries.decorateTexts rule) (removesEmpty bucket)).map
    registries.attachLinks

/-- The rule results of a bucket that are kept, decorated (`decorate_bucket`). -/
def decorateBucket (registries : Registries) (bucket : Bucket) (rules : List RuleResult) :
    List RuleResult :=
  rules.filterMap (registries.decorateRule? bucket)

theorem decorateBucket_inapplicable (registries : Registries) (rules : List RuleResult) :
    (registries.decorateBucket .inapplicable rules).length = rules.length := by
  induction rules with
  | nil => rfl
  | cons rule rest ih =>
    simp only [decorateBucket, List.filterMap_cons] at ih ⊢
    have h := SuppressionList.suppress_keep registries.suppression (registries.decorateTexts rule)
    have : (registries.decorateRule? .inapplicable rule).isSome = true := by
      simpa [decorateRule?, removesEmpty] using h
    obtain ⟨kept, hk⟩ := Option.isSome_iff_exists.mp this
    simp [hk, ih]

/-- The rule results that decoration drops, in the order in which they are met. -/
def dropped (registries : Registries) (engine : EngineScan) : List (Bucket × String) :=
  Bucket.all.flatMap fun bucket =>
    ((engine.toBuckets.get bucket).filter fun rule =>
      (registries.decorateRule? bucket rule).isNone).map fun rule => (bucket, rule.id)

/-- The results of a scan of a page with the given title (`decorate_results`). -/
def decorate (registries : Registries) (title : String) (engine : EngineScan) : ScanResults where
  toBuckets := engine.toBuckets.map registries.decorateBucket
  timestamp := engine.timestamp.normalize
  targetPageUrl := engine.url
  targetPageTitle := title

end Registries
end AccessReport
