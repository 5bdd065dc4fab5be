import AccessReport.Proofs.Decoration.Fidelity
import AccessReport.Proofs.Registry.Compiled
import AccessReport.Proofs.Unified.Names
import AccessReport.Proofs.Unified.Uids
import AccessReport.Report
/-!
# Where the results of a report come from

A result of a report concerns one node that the engine found. Which nodes those are, in which
order, and what their results say is read here off the engine's scan and the configuration alone,
without decorating anything: `reported` lists the nodes, and `Origin.Gives` says what one of them
gives.

* `nodesOf_decorate`: the nodes that a conversion takes from a decorated scan are the reported
  ones, after decoration.
* `results_of_origins`: the results of a report stand one by one beside the reported nodes.

A check is suppressed by the message that the report would show, which is the configured one where
there is one; the engine's own text does not matter then.
-/
namespace AccessReport

/-- A node that gives a result, with the rule that was evaluated on it, as the engine has them. -/
structure Origin where
  status : ResultStatus
  rule : RuleResult
  node : Node

namespace Config

/-- The `any` checks of a node whose messages are not suppressed. -/
def keptAny (config : Config) (ruleId : String) (node : Node) : List Check :=
  node.anyChecks.filter fun check => !config.suppresses (config.finalMessage ruleId check)

/-- Whether a node has a check that is not suppressed. -/
def keeps (config : Config) (ruleId : String) (node : Node) : Bool :=
  !(config.keptAny ruleId node ++ node.allChecks ++ node.noneChecks).isEmpty

/-- The nodes of rule results that keep a check. -/
def origins (config : Config) (status : ResultStatus) (rules : List RuleResult) : List Origin :=
  rules.flatMap fun rule =>
    (rule.nodes.filter (config.keeps rule.id)).map fun node => { status, rule, node }

theorem status_of_mem_origins {config : Config} {status : ResultStatus} {rules : List RuleResult}
    {origin : Origin} (h : origin ∈ config.origins status rules) : origin.status = status := by
  obtain ⟨rule, -, ho⟩ := List.mem_flatMap.mp h
  obtain ⟨node, -, rfl⟩ := List.mem_map.mp ho
  rfl

/-- The nodes of a scan that give results. -/
def reported (config : Config) (engine : EngineScan) : ConversionMode → List Origin
  | .automated => config.origins .fail engine.violations ++ config.origins .pass engine.passes
  | .needsReview =>
    config.origins .unknown engine.violations ++ config.origins .unknown engine.incomplete

/-- What a result says about resolving it. -/
def resolutionFor (config : Config) (origin : Origin) : ConversionMode → Resolution
  | .automated =>
    { howToFix := some {
        anyMessages := (config.keptAny origin.rule.id origin.node).map
          (config.finalMessage origin.rule.id)
        noneMessages := origin.node.noneChecks.map (config.finalMessage origin.rule.id)
        allMessages := origin.node.allChecks.map (config.finalMessage origin.rule.id) }
      howToFixSummary := origin.node.failureSummary
      howToCheck := if config.hasHowToCheck origin.rule.id then some origin.rule.id else none }
  | .needsReview => { howToCheck := some origin.rule.id }

end Config

/-- A result is the one that a node gives. -/
structure Origin.Gives (config : Config) (mode : ConversionMode) (origin : Origin)
    (result : UnifiedResult) : Prop where
  status : result.status = origin.status
  ruleId : result.ruleId = origin.rule.id
  identifiers : result.identifiers.Names origin.node.target
  resolution : result.resolution = config.resolutionFor origin mode

namespace Registries

/-! ## Nodes after decoration -/

section
variable {config : Config} {registries : Registries} (h : compile config = .ok registries)

include h in
theorem keptAny_compile (ruleId : String) (node : Node) :
    registries.keptAny ruleId node = config.keptAny ruleId node := by
  refine List.filter_congr fun check _ => ?_
  rw [← message_withMessage, withMessage_compile h, isSuppressed_compile h]

include h in
theorem anyChecks_nodeAfter (ruleId : String) (node : Node) :
    (registries.nodeAfter ruleId node).anyChecks
      = (config.keptAny ruleId node).map (Check.withMessage (registries.rules.get? ruleId)) := by
  rw [nodeAfter_eq, ← keptAny_compile h]

theorem allChecks_nodeAfter (registries : Registries) (ruleId : String) (node : Node) :
    (registries.nodeAfter ruleId node).allChecks
      = node.allChecks.map (Check.withMessage (registries.rules.get? ruleId)) := by
  rw [nodeAfter_eq]

theorem noneChecks_nodeAfter (registries : Registries) (ruleId : String) (node : Node) :
    (registries.nodeAfter ruleId node).noneChecks
      = node.noneChecks.map (Check.withMessage (registries.rules.get? ruleId)) := by
  rw [nodeAfter_eq]

theorem target_nodeAfter (registries : Registries) (ruleId : String) (node : Node) :
    (registries.nodeAfter ruleId node).target = node.target := by
  rw [nodeAfter_eq]

theorem names_nodeAfter (registries : Registries) (ruleId : String) (node : Node) :
    (Identifiers.ofTarget (registries.nodeAfter ruleId node).target).Names node.target := by
  rw [target_nodeAfter]
  exact Identifiers.names_ofTarget node.target

theorem failureSummary_nodeAfter (registries : Registries) (ruleId : String) (node : Node) :
    (registries.nodeAfter ruleId node).failureSummary = node.failureSummary := by
  rw [nodeAfter_eq]

include h in
theorem isEmpty_nodeAfter (ruleId : String) (node : Node) :
    (!(registries.nodeAfter ruleId node).isEmpty) = config.keeps ruleId node := by
  rw [isEmpty_nodeAfter_eq, keepsNode, keptAny_compile h, Config.keeps]

include h in
theorem messages_compile (ruleId : String) (checks : List Check) :
    Resolution.messages (checks.map (Check.withMessage (registries.rules.get? ruleId)))
      = checks.map (config.finalMessage ruleId) := by
  rw [Resolution.messages, List.map_map]
  exact List.map_congr_left fun check _ => withMessage_compile h ruleId check

/-! ## Nodes that a conversion takes -/

include h in
theorem decorateBucket_origins (status : ResultStatus) (bucket : Bucket)
    (rules : List RuleResult) :
    ((registries.decorateBucket bucket rules).flatMap fun rule =>
      rule.nodes.map fun node => (status, rule, node))
      = (config.origins status rules).map fun origin =>
          (origin.status, registries.decorated origin.rule,
            registries.nodeAfter origin.rule.id origin.node) := by
  rw [decorateBucket_flatMap, Config.origins, List.map_flatMap]
  congr 1
  funext rule
  rw [nodesAfter_eq, List.map_map, List.map_map]
  simp only [isEmpty_nodeAfter h]
  rfl

include h in
theorem nodesOf_decorate (mode : ConversionMode) (title : String) (engine : EngineScan) :
    mode.nodesOf (registries.decorate title engine)
      = (config.reported engine mode).map fun origin =>
          (origin.status, registries.decorated origin.rule,
            registries.nodeAfter origin.rule.id origin.node) := by
  cases mode <;>
    simp only [ConversionMode.nodesOf, ConversionMode.sources, RuleResult.taken, decorate,
      List.flatMap_cons, List.flatMap_nil, List.append_nil, Buckets.get, Buckets.map,
      decorateBucket_origins h, Config.reported, List.map_append]

/-! ## What they give -/

include h in
theorem resolution_nodeAfter {origin : Origin} (hs : origin.status ≠ .unknown) :
    Resolution.ofNode registries.rules origin.status origin.rule.id
        (registries.nodeAfter origin.rule.id origin.node)
      = config.resolutionFor origin .automated := by
  have hsummary := failureSummary_nodeAfter registries origin.rule.id origin.node
  simp only [Config.resolutionFor, ← messages_compile h, ← anyChecks_nodeAfter h,
    ← allChecks_nodeAfter, ← noneChecks_nodeAfter, ← hasHowToCheck_compile h, ← hsummary]
  cases hstatus : origin.status with
  | unknown => exact absurd hstatus hs
  | pass => rfl
  | fail => rfl

include h in
theorem gives_ofNode {mode : ConversionMode} {engine : EngineScan} {origin : Origin}
    (ho : origin ∈ config.reported engine mode) (uid : String) :
    origin.Gives config mode
      (.ofNode registries.rules uid origin.status (registries.decorated origin.rule)
        (registries.nodeAfter origin.rule.id origin.node)) where
  status := rfl
  ruleId := rfl
  identifiers := names_nodeAfter ..
  resolution := by
    cases mode with
    | automated =>
      refine resolution_nodeAfter h ?_
      rcases List.mem_append.mp ho with ho | ho <;> rw [Config.status_of_mem_origins ho] <;> decide
    | needsReview =>
      have hs : origin.status = .unknown := by
        rcases List.mem_append.mp ho with ho | ho <;> exact Config.status_of_mem_origins ho
      simp only [UnifiedResult.ofNode, hs]
      rfl

end

end Registries

namespace Report

/-- Numbering a list and making something of each item keeps the items in their places. -/
theorem forall₂_zipIdx_map {α β γ : Type} {R : α → γ → Prop} (f : α → β) (g : β × Nat → γ)
    (items : List α) (h : ∀ item ∈ items, ∀ k, R item (g (f item, k))) (start : Nat) :
    List.Forall₂ R items (((items.map f).zipIdx start).map g) := by
  induction items generalizing start with
  | nil => exact .nil
  | cons item rest ih =>
    rw [List.map_cons, List.zipIdx_cons, List.map_cons]
    exact .cons (h item List.mem_cons_self start)
      (ih (fun other ho => h other (List.mem_cons_of_mem _ ho)) (start + 1))

/-- **Provenance.** A configuration that compiles and a text that is an engine's scan give a
report, whatever title, mode, selection and uids are asked for, and the results of the report
stand one by one, in order, beside the nodes that give them. -/
theorem results_of_origins (plan : ReportPlan) (config : Config) (text : String)
    (uids : UidSupply) (registries : Registries) (engine : EngineScan)
    (hc : Registries.compile config = .ok registries)
    (he : EngineScan.ofText? text = some engine) :
    ∃ report, (run plan config text uids).outcome = .ok report ∧
      List.Forall₂ (Origin.Gives config plan.mode) (config.reported engine plan.mode)
        report.unified.results := by
  refine ⟨ofScan plan registries uids engine,
    (run_outcome ..).mpr ⟨engine, registries, he, hc, rfl⟩, ?_⟩
  change List.Forall₂ _ _ (Converter.results _ _ _)
  rw [Converter.results_eq, Registries.nodesOf_decorate hc]
  exact forall₂_zipIdx_map _ _ _ (fun origin ho k => Registries.gives_ofNode hc ho (uids k)) 0

/-- Two nodes with one check each. The configured message of the first check is suppressed, the
engine's message of the second would be, but is not the one that counts. -/
def noisyText : String :=
  "\x7b\"violations\":[\x7b\"id\":\"alt\",\"nodes\":["
    ++ "\x7b\"target\":[\"a\"],\"any\":[\x7b\"id\":\"has-alt\",\"message\":\"m\","
    ++ "\"data\":\x7b\"part\":\"Noise\"\x7d\x7d]\x7d,"
    ++ "\x7b\"target\":[\"main\",\"ul > li\"],\"any\":[\x7b\"id\":\"has-alt\",\"message\":\"noise\","
    ++ "\"data\":\x7b\"part\":\"alt\"\x7d\x7d]\x7d]\x7d]\x7d"

def noisyConfig : Config where
  rules := [{
    id := "alt"
    checks := [{ id := "has-alt", failMessage := some "\x7bdata.part\x7d" }] }]
  suppression := { messages := [" NOISE "] }

theorem results_of_noisy_scan :
    ∃ registries engine report,
      Registries.compile noisyConfig = .ok registries ∧
      EngineScan.ofText? noisyText = some engine ∧
      (noisyConfig.reported engine .automated).map (·.node.target) = [["main", "ul > li"]] ∧
      (run {} noisyConfig noisyText fun _ => "uid").outcome = .ok report ∧
      List.Forall₂ (Origin.Gives noisyConfig .automated) (noisyConfig.reported engine .automated)
        report.unified.results ∧
      report.unified.results.map (·.identifiers) =
        [{ identifier := "main;ul > li", conciseName := "li", cssSelector := "main;ul > li" }] := by
  have hread : (EngineScan.ofText? noisyText).map (fun engine =>
      (noisyConfig.reported engine .automated).map (·.node.target))
        = some [["main", "ul > li"]] := by
    decide +kernel
  obtain ⟨engine, he, htargets⟩ := Option.map_eq_some_iff.mp hread
  obtain ⟨registries, hc⟩ : ∃ registries, Registries.compile noisyConfig = .ok registries :=
    ⟨_, by rfl⟩
  obtain ⟨report, hrun, hresults⟩ :=
    results_of_origins {} noisyConfig noisyText (fun _ => "uid") registries engine hc he
  have hnames : (run {} noisyConfig noisyText fun _ => "uid").outcome.toOption.map
      (fun report => report.unified.results.map (·.identifiers))
        = some [⟨"main;ul > li", "li", "main;ul > li"⟩] := by
    decide +kernel
  rw [hrun] at hnames
  exact ⟨registries, engine, report, hc, he, htargets, hrun, hresults, Option.some.inj hnames⟩

end Report
end AccessReport
