import AccessReport.Proofs.Decoration.Settled
import AccessReport.Proofs.Report.Accounting
import AccessReport.Proofs.Scan.RoundTrip
import Mathlib.Algebra.Ring.Nat
import Mathlib.Data.Finset.Card
import Mathlib.Data.Finset.Lattice.Basic
/-!
# Totals of a report

The counts of a report are taken from its cards, but they are numbers of the scan: how many rules
and how many nodes its buckets have. A rule that is repeated, in one bucket or in several of them,
counts once for a status, and decoration leaves no rule without nodes in the buckets that results
are made of, so every rule there has a card.

* `CardsView.length_get`, `CardsView.instances_get`, `CardsView.length_get_inapplicable`: the
  numbers of cards and of results on them, in terms of the results.
* `Converter.map_ruleId_inStatus`, `Converter.map_ruleId_results`: the rules of the results, in
  terms of the scan.
* `Report.counts_eq_totals`: the counts of every report that is made.
-/
namespace AccessReport

/-! ## Numbers of a scan -/

namespace RuleResult

/-- The ids of rule results; one that is repeated is there once. -/
def idSet (rules : List RuleResult) : Finset String := (rules.map (·.id)).toFinset

/-- The number of nodes of rule results. -/
def nodeCount (rules : List RuleResult) : Nat := (rules.flatMap (·.nodes)).length

/-- The id of a rule result for each of its nodes. -/
def nodeIds (rules : List RuleResult) : List String :=
  rules.flatMap fun rule => rule.nodes.map fun _ => rule.id

end RuleResult

open RuleResult in
/-- The ids of all rule results of a scan. -/
def ScanResults.ids (scan : ScanResults) : Finset String :=
  idSet scan.violations ∪ idSet scan.passes ∪ idSet scan.incomplete ∪ idSet scan.inapplicable

open RuleResult in
/-- The numbers of a scan that a report in a mode is about, none greater than what 32 bits hold. -/
def CardCounts.totals (scan : ScanResults) : ConversionMode → CardCounts
  | .automated =>
    { passRules := min (idSet scan.passes).card (2 ^ 32 - 1)
      failRules := min (idSet scan.violations).card (2 ^ 32 - 1)
      unknownRules := 0
      inapplicableRules :=
        min (scan.ids \ (idSet scan.violations ∪ idSet scan.passes)).card (2 ^ 32 - 1)
      failInstances := min (nodeCount scan.violations) (2 ^ 32 - 1)
      unknownInstances := 0 }
  | .needsReview =>
    { passRules := 0
      failRules := 0
      unknownRules := min (idSet scan.violations ∪ idSet scan.incomplete).card (2 ^ 32 - 1)
      inapplicableRules :=
        min (scan.ids \ (idSet scan.violations ∪ idSet scan.incomplete)).card (2 ^ 32 - 1)
      failInstances := 0
      unknownInstances :=
        min (nodeCount scan.violations + nodeCount scan.incomplete) (2 ^ 32 - 1) }

namespace RuleResult

@[simp] theorem idSet_nil : idSet [] = ∅ := rfl

@[simp] theorem nodeCount_nil : nodeCount [] = 0 := rfl

theorem idSet_append (rules more : List RuleResult) :
    idSet (rules ++ more) = idSet rules ∪ idSet more := by
  rw [idSet, List.map_append, List.toFinset_append, idSet, idSet]

/-- The walk over a scan meets the rule results of all four buckets. -/
theorem idSet_walk (scan : ScanResults) :
    idSet scan.toBuckets.walk = scan.ids := by
  simp only [Buckets.walk, Bucket.all, List.flatMap_cons, List.flatMap_nil, List.append_nil,
    Buckets.get, idSet_append, ScanResults.ids]
  ac_rfl

theorem nodeCount_append (rules more : List RuleResult) :
    nodeCount (rules ++ more) = nodeCount rules + nodeCount more := by
  rw [nodeCount, List.flatMap_append, List.length_append, nodeCount, nodeCount]

theorem length_nodeIds (rules : List RuleResult) : (nodeIds rules).length = nodeCount rules := by
  simp only [nodeIds, nodeCount, List.length_flatMap, List.length_map]

/-- Rule results that all have nodes are known by their nodes. -/
theorem toFinset_nodeIds {rules : List RuleResult} (h : ∀ rule ∈ rules, rule.nodes ≠ []) :
    (nodeIds rules).toFinset = idSet rules := by
  ext id
  simp only [nodeIds, idSet, List.mem_toFinset, List.mem_flatMap, List.mem_map]
  constructor
  · rintro ⟨rule, hr, _, -, rfl⟩
    exact ⟨rule, hr, rfl⟩
  · rintro ⟨rule, hr, rfl⟩
    obtain ⟨node, hn⟩ := List.exists_mem_of_ne_nil rule.nodes (h rule hr)
    exact ⟨rule, hr, node, hn, rfl⟩

end RuleResult

/-! ## Cards -/

namespace CardsView

variable {rules : List UnifiedRule} {results : List UnifiedResult} {selection : Selection}

/-- As many cards as there are rules with results of the status. -/
theorem length_get (hk : ∀ result ∈ results, result.ruleId ∈ rules.map (·.id))
    {status : CardStatus} (hs : status ≠ .inapplicable) :
    ((cardsOf rules results selection).get status).length
      = ((inStatus results status).map (·.ruleId)).toFinset.card := by
  have hids : (groups rules selection results status).map (·.id) = ruleIds results status := by
    rw [ids_groups, List.filter_eq_self]
    intro ruleId hr
    obtain ⟨result, hm, -, rfl⟩ := mem_ruleIds.mp hr
    exact ruleOf?_isSome.mpr (hk result hm)
  have hset : (ruleIds results status).toFinset
      = ((inStatus results status).map (·.ruleId)).toFinset := by
    ext ruleId
    rw [List.mem_toFinset, List.mem_toFinset, ruleIds, List.mem_eraseDups]
  have hn : (ruleIds results status).Nodup := Grouping.nodup_eraseDups _
  rw [← hset, List.toFinset_card_of_nodup hn, ← hids, List.length_map,
    get_cardsOf rules results selection hs]

/-- As many results on cards as there are results of the status. -/
theorem instances_get (hk : ∀ result ∈ results, result.ruleId ∈ rules.map (·.id))
    {status : CardStatus} (hs : status ≠ .inapplicable) :
    CardCounts.instances ((cardsOf rules results selection).get status)
      = (inStatus results status).length := by
  have hshown : (groups rules selection results status).flatMap
      (fun card => card.nodes.map (·.result))
        = (ruleIds results status).flatMap (onCard results status) := results_groups hk status
  rw [← (ruleIds_flatMap_perm results status).length_eq, ← hshown,
    get_cardsOf rules results selection hs, CardCounts.instances]
  simp only [List.length_flatMap, List.length_map]

/-- As many inapplicable cards as there are rules without results. -/
theorem length_get_inapplicable (hn : (rules.map (·.id)).Nodup) :
    ((cardsOf rules results selection).get .inapplicable).length
      = ((rules.map (·.id)).toFinset \ (results.map (·.ruleId)).toFinset).card := by
  have hset : (rules.map (·.id)).toFinset \ (results.map (·.ruleId)).toFinset
      = ((rules.filter fun rule => decide (rule.id ∉ results.map (·.ruleId))).map
          (·.id)).toFinset := by
    ext ruleId
    simp only [Finset.mem_sdiff, List.mem_toFinset, List.mem_map, List.mem_filter,
      decide_eq_true_eq]
    constructor
    · rintro ⟨⟨rule, hr, rfl⟩, hnone⟩
      exact ⟨rule, ⟨hr, hnone⟩, rfl⟩
    · rintro ⟨rule, ⟨hr, hnone⟩, rfl⟩
      exact ⟨⟨rule, hr, rfl⟩, hnone⟩
  rw [hset, List.toFinset_card_of_nodup ((List.filter_sublist.map _).nodup hn), List.length_map,
    get_cardsOf_inapplicable hn, List.length_map]

end CardsView

/-! ## Results -/

namespace ScanResults

/-- The rule results of buckets. -/
def rulesOf (scan : ScanResults) (sources : List (Bucket × ResultStatus)) : List RuleResult :=
  sources.flatMap fun source => scan.toBuckets.get source.1

/-- The rule results whose nodes go to the cards of a status. -/
def rulesFor (scan : ScanResults) (mode : ConversionMode) (status : CardStatus) :
    List RuleResult :=
  scan.rulesOf (mode.sources.filter fun source => decide (source.2.toCardStatus = status))

end ScanResults

namespace Converter

variable (converter : Converter) (mode : ConversionMode) (scan : ScanResults)

/-- A uid has no part in the status and the rule of a result. -/
theorem map_key_results :
    ((converter.results mode scan).map fun result => (result.status, result.ruleId))
      = (mode.nodesOf scan).map fun taken => (taken.1, taken.2.1.id) := by
  have hmap : ∀ (taken : List (ResultStatus × RuleResult × Node)) (start : Nat),
      (taken.zipIdx start).map (fun item => (item.1.1, item.1.2.1.id))
        = taken.map fun item => (item.1, item.2.1.id) := by
    intro taken start
    conv_rhs => rw [← List.zipIdx_map_fst start taken]
    rw [List.map_map]
    rfl
  rw [results_eq, List.map_map]
  exact hmap _ _

theorem map_ruleId_results :
    (converter.results mode scan).map (·.ruleId)
      = RuleResult.nodeIds (scan.rulesOf mode.sources) := by
  have hkeys := congrArg (List.map Prod.snd) (map_key_results converter mode scan)
  rw [List.map_map, List.map_map] at hkeys
  refine hkeys.trans ?_
  simp only [ConversionMode.nodesOf, RuleResult.taken, RuleResult.nodeIds, ScanResults.rulesOf,
    List.map_flatMap, List.flatMap_assoc, List.map_map]
  rfl

/-- The nodes of one source all have its status. -/
theorem filter_keys (source : Bucket × ResultStatus) (status : CardStatus) :
    (((RuleResult.taken source.2 (scan.toBuckets.get source.1)).map fun taken =>
        (taken.1, taken.2.1.id)).filter fun key => decide (key.1.toCardStatus = status)).map (·.2)
      = if source.2.toCardStatus = status then
          RuleResult.nodeIds (scan.toBuckets.get source.1) else [] := by
  simp only [RuleResult.taken, List.map_flatMap, List.map_map, List.filter_flatMap]
  by_cases hs : source.2.toCardStatus = status
  · simp [hs, RuleResult.nodeIds, Function.comp_def]
  · simp [hs, Function.comp_def]

theorem map_ruleId_inStatus (status : CardStatus) :
    (CardsView.inStatus (converter.results mode scan) status).map (·.ruleId)
      = RuleResult.nodeIds (scan.rulesFor mode status) := by
  have hkeys : (CardsView.inStatus (converter.results mode scan) status).map (·.ruleId)
      = ((((mode.nodesOf scan).map fun taken => (taken.1, taken.2.1.id)).filter
          fun key => decide (key.1.toCardStatus = status)).map (·.2)) := by
    rw [← map_key_results converter mode scan, List.filter_map, List.map_map]
    rfl
  rw [hkeys, ConversionMode.nodesOf, ScanResults.rulesFor]
  induction mode.sources with
  | nil => rfl
  | cons source sources ih =>
    rw [List.flatMap_cons, List.map_append, List.filter_append, List.map_append, ih,
      filter_keys scan source status, List.filter_cons]
    by_cases hs : source.2.toCardStatus = status
    · simp [hs, ScanResults.rulesOf, RuleResult.nodeIds]
    · simp [hs]

end Converter

/-! ## Rules -/

namespace UnifiedRule

theorem firstOccurrences_sublist (seen : List String) (rules : List RuleResult) :
    (firstOccurrences seen rules).Sublist rules := by
  induction rules generalizing seen with
  | nil => exact .slnil
  | cons rule rest ih =>
    unfold firstOccurrences
    split
    · exact (ih seen).cons rule
    · exact (ih (rule.id :: seen)).cons_cons rule

/-- The rules of a scan are those of its four buckets. -/
theorem toFinset_ids_ofScan (scan : ScanResults) :
    ((ofScan scan).map (·.id)).toFinset = scan.ids := by
  rw [← RuleResult.idSet_walk]
  ext id
  rw [ids_ofScan, RuleResult.idSet, List.mem_toFinset, List.mem_toFinset]
  constructor
  · exact fun h => ((firstOccurrences_sublist [] _).map (·.id)).subset h
  · exact fun h => mem_ids_firstOccurrences h List.not_mem_nil

end UnifiedRule

namespace Registries

/-- Decoration leaves no rule without nodes in the buckets that results are made of. -/
theorem nodes_ne_nil_of_mem_rulesOf (registries : Registries) (title : String)
    (engine : EngineScan) {mode : ConversionMode} {sources : List (Bucket × ResultStatus)}
    (hsources : sources ⊆ mode.sources) :
    ∀ rule ∈ (registries.decorate title engine).rulesOf sources, rule.nodes ≠ [] := by
  intro rule hr
  obtain ⟨source, hs, hr⟩ := List.mem_flatMap.mp hr
  have hbucket : source.1 ≠ .inapplicable := by
    have hall : ∀ source ∈ mode.sources, source.1 ≠ .inapplicable := by
      cases mode <;> decide
    exact hall source (hsources hs)
  rw [decorate, Buckets.get_map] at hr
  exact (decorateBucket_settled registries source.1 _ rule hr).kept hbucket

end Registries

/-! ## Reports -/

namespace Report

section
variable (plan : ReportPlan) (registries : Registries) (uids : UidSupply) (engine : EngineScan)

theorem length_cards {status : CardStatus} (hs : status ≠ .inapplicable) :
    ((ofScan plan registries uids engine).cards.cards.get status).length
      = (RuleResult.idSet ((registries.decorate plan.title engine).rulesFor plan.mode
          status)).card := by
  have hfilled : ∀ rule ∈ (registries.decorate plan.title engine).rulesFor plan.mode status,
      rule.nodes ≠ [] :=
    registries.nodes_ne_nil_of_mem_rulesOf plan.title engine (List.filter_subset_self _)
  rw [← RuleResult.toFinset_nodeIds hfilled,
    ← Converter.map_ruleId_inStatus { rules := registries.rules, uids }]
  exact CardsView.length_get (fun result hr => Converter.ruleId_known hr) hs

theorem instances_cards {status : CardStatus} (hs : status ≠ .inapplicable) :
    CardCounts.instances ((ofScan plan registries uids engine).cards.cards.get status)
      = RuleResult.nodeCount ((registries.decorate plan.title engine).rulesFor plan.mode
          status) := by
  rw [← RuleResult.length_nodeIds,
    ← Converter.map_ruleId_inStatus { rules := registries.rules, uids }, List.length_map]
  exact CardsView.instances_get (fun result hr => Converter.ruleId_known hr) hs

theorem length_inapplicable :
    ((ofScan plan registries uids engine).cards.cards.get .inapplicable).length
      = ((registries.decorate plan.title engine).ids
          \ RuleResult.idSet ((registries.decorate plan.title engine).rulesOf
            plan.mode.sources)).card := by
  have hfilled := registries.nodes_ne_nil_of_mem_rulesOf plan.title engine
    (List.Subset.refl plan.mode.sources)
  rw [← UnifiedRule.toFinset_ids_ofScan, ← RuleResult.toFinset_nodeIds hfilled,
    ← Converter.map_ruleId_results { rules := registries.rules, uids }]
  exact CardsView.length_get_inapplicable (UnifiedRule.ids_ofScan_nodup _)

end

/-- **Totals.** The counts of every report that is made are the numbers of its scan. -/
theorem counts_eq_totals {plan : ReportPlan} {config : Config} {text : String} {uids : UidSupply}
    {report : Report} (h : (run plan config text uids).outcome = .ok report) :
    report.counts = CardCounts.totals report.scanResults plan.mode := by
  obtain ⟨engine, registries, -, -, rfl⟩ := (run_outcome ..).mp h
  change CardCounts.ofView (ofScan plan registries uids engine).cards
    = CardCounts.totals (registries.decorate plan.title engine) plan.mode
  have hpass : CardStatus.pass ≠ .inapplicable := by decide
  have hfail : CardStatus.fail ≠ .inapplicable := by decide
  have hunknown : CardStatus.unknown ≠ .inapplicable := by decide
  rw [CardCounts.ofView, length_cards plan registries uids engine hpass,
    length_cards plan registries uids engine hfail,
    length_cards plan registries uids engine hunknown,
    instances_cards plan registries uids engine hfail,
    instances_cards plan registries uids engine hunknown,
    length_inapplicable plan registries uids engine]
  generalize registries.decorate plan.title engine = scan
  cases plan.mode <;>
    simp [CardCounts.totals, CardCounts.capped, CardCounts.greatest, ScanResults.rulesFor,
      ScanResults.rulesOf, ConversionMode.sources, ResultStatus.toCardStatus, Buckets.get,
      RuleResult.idSet_append, RuleResult.nodeCount_append]

theorem exists_report (plan : ReportPlan) {config : Config} {text : String} (uids : UidSupply)
    {engine : EngineScan} {registries : Registries} (he : EngineScan.ofText? text = some engine)
    (hc : Registries.compile config = .ok registries) :
    ∃ report, (run plan config text uids).outcome = .ok report ∧
      report.scanResults = registries.decorate plan.title engine :=
  ⟨_, (run_outcome ..).mpr ⟨engine, registries, he, hc, rfl⟩, rfl⟩

/-- A rule that is there four times, a rule without checks that are not suppressed, and others. -/
def crowdedScan : EngineScan :=
  let check : Check := { id := "c" }
  let noise : Check := { id := "c", message := "Noise" }
  { violations := [
      { id := "alt", nodes := [{ allChecks := [check] }] },
      { id := "hum", nodes := [{ anyChecks := [noise] }] },
      { id := "alt", nodes := [{ allChecks := [check] }, { noneChecks := [check] }, {}] }]
    passes := [{ id := "alt", nodes := [{ allChecks := [check] }] }]
    incomplete := [{ id := "link", nodes := [{ allChecks := [check] }] }]
    inapplicable := [{ id := "alt" }, { id := "title" }] }

theorem crowdedScan_held (levels : Nat) : crowdedScan.Held levels where
  checks rule hr node hn check hc := by
    refine Check.held_of_null levels ?_
    revert rule node check
    simp [crowdedScan, Buckets.walk, Bucket.all, Buckets.get, Node.checks]
  millis n hn := by cases hn

def crowdedText : String := crowdedScan.toJson.compact

theorem ofText?_crowdedText : EngineScan.ofText? crowdedText = some crowdedScan :=
  EngineScan.ofText?_compact (crowdedScan_held 0) (by decide)

def quietConfig : Config where
  suppression := { messages := ["noise"] }

theorem counts_crowded :
    (∃ report, (run {} quietConfig crowdedText fun _ => "uid").outcome = .ok report ∧
      report.counts = CardCounts.totals report.scanResults .automated ∧
      report.counts = ⟨1, 1, 0, 2, 3, 0⟩) ∧
    ∃ report,
      (run { mode := .needsReview } quietConfig crowdedText fun _ => "uid").outcome = .ok report ∧
      report.counts = CardCounts.totals report.scanResults .needsReview ∧
      report.counts = ⟨0, 0, 2, 1, 0, 4⟩ := by
  have htotals : ((Registries.compile quietConfig).toOption.map fun registries =>
      (CardCounts.totals (registries.decorate "" crowdedScan) .automated,
        CardCounts.totals (registries.decorate "" crowdedScan) .needsReview))
          = some (⟨1, 1, 0, 2, 3, 0⟩, ⟨0, 0, 2, 1, 0, 4⟩) := by
    decide +kernel
  obtain ⟨registries, hcompile, htotals⟩ := Option.map_eq_some_iff.mp htotals
  obtain ⟨hautomated, hneedsReview⟩ := Prod.mk.inj htotals
  have hcompile := toOption_eq_some.mp hcompile
  constructor
  · obtain ⟨report, hreport, hscan⟩ :=
      exists_report {} (fun _ => "uid") ofText?_crowdedText hcompile
    have hcounts := counts_eq_totals hreport
    exact ⟨report, hreport, hcounts, by rw [hcounts, hscan, hautomated]⟩
  · obtain ⟨report, hreport, hscan⟩ :=
      exists_report { mode := .needsReview } (fun _ => "uid") ofText?_crowdedText hcompile
    have hcounts := counts_eq_totals hreport
    exact ⟨report, hreport, hcounts, by rw [hcounts, hscan, hneedsReview]⟩

end Report
end AccessReport
