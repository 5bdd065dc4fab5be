import AccessReport.Proofs.Cards.Accounting
import AccessReport.Proofs.Outcomes
import AccessReport.Proofs.Unified.Uids
import AccessReport.Report
/-!
# Rules, results and cards of one report

A report tells the same things three times: the rules without their results, the results one by
one, and the cards with rules and results together. The three agree.

* `ruleId_known`: the rules of a report cover its results.
* `accounted`: the agreement, for every report that is made.

Uids play no part in it: a supply may give the same uid twice.
-/
namespace AccessReport

namespace UnifiedRule

theorem mem_ids_firstOccurrences {seen : List String} {rules : List RuleResult} {id : String}
    (h : id ∈ rules.map (·.id)) (hs : id ∉ seen) :
    id ∈ (firstOccurrences seen rules).map (·.id) := by
  induction rules generalizing seen with
  | nil => cases h
  | cons rule rest ih =>
    rw [List.map_cons, List.mem_cons] at h
    unfold firstOccurrences
    split
    · rename_i hseen
      have hne : id ≠ rule.id := by
        rintro rfl
        exact hs (by simpa using hseen)
      exact ih (h.resolve_left hne) hs
    · rw [List.map_cons, List.mem_cons]
      by_cases he : id = rule.id
      · exact .inl he
      · refine .inr (ih (h.resolve_left he) ?_)
        rw [List.mem_cons, not_or]
        exact ⟨he, hs⟩

theorem ids_ofScan (scan : ScanResults) :
    (ofScan scan).map (·.id) = (firstOccurrences [] scan.toBuckets.walk).map (·.id) := by
  rw [ofScan, List.map_map]
  rfl

theorem ids_ofScan_nodup (scan : ScanResults) : ((ofScan scan).map (·.id)).Nodup := by
  rw [ids_ofScan]
  exact firstOccurrences_ids_nodup [] scan.toBuckets.walk

theorem id_mem_ofScan {scan : ScanResults} {bucket : Bucket} {rule : RuleResult}
    (h : rule ∈ scan.toBuckets.get bucket) : rule.id ∈ (ofScan scan).map (·.id) := by
  rw [ids_ofScan]
  have hwalk : rule ∈ scan.toBuckets.walk :=
    List.mem_flatMap.mpr ⟨bucket, by cases bucket <;> decide, h⟩
  exact mem_ids_firstOccurrences (List.mem_map_of_mem hwalk) List.not_mem_nil

end UnifiedRule

namespace Converter

/-- The rules of a report cover its results: what a conversion takes lies in buckets that the walk
over the rules visits. -/
theorem ruleId_known {converter : Converter} {mode : ConversionMode} {scan : ScanResults}
    {result : UnifiedResult} (h : result ∈ converter.results mode scan) :
    result.ruleId ∈ (UnifiedRule.ofScan scan).map (·.id) := by
  rw [results_eq] at h
  obtain ⟨taken, ht, rfl⟩ := List.mem_map.mp h
  have hnode : taken.1 ∈ mode.nodesOf scan := List.fst_mem_of_mem_zipIdx ht
  simp only [ConversionMode.nodesOf, RuleResult.taken, List.mem_flatMap, List.mem_map] at hnode
  obtain ⟨source, -, rule, hrule, node, -, heq⟩ := hnode
  rw [← heq]
  exact UnifiedRule.id_mem_ofScan hrule

end Converter

namespace Report

/-- Nothing is lost or doubled between the rules, the results and the cards of a report. -/
structure Accounted (report : Report) : Prop where
  rulesDistinct : (report.unified.rules.map (·.id)).Nodup
  resultsKnown : ∀ result ∈ report.unified.results,
    result.ruleId ∈ report.unified.rules.map (·.id)
  cardsKnown : ∀ status, ∀ card ∈ report.cards.cards.get status,
    card.id ∈ report.unified.rules.map (·.id)
  shownOnce : report.cards.cards.shown.Perm report.unified.results
  placed : ∀ status, ∀ card ∈ report.cards.cards.get status, card.status = status ∧
    ∀ node ∈ card.nodes,
      node.result.status.ShownAs status ∧ node.result.ruleId = card.id
  rulesShown : ∀ rule ∈ report.unified.rules,
    report.cards.cards.ShowsUnused rule.id ∨ report.cards.cards.ShowsUsed rule.id

/-- **Accounting.** The rules, the results and the cards of every report that is made agree. -/
theorem accounted {plan : ReportPlan} {config : Config} {text : String} {uids : UidSupply}
    {report : Report} (h : (run plan config text uids).outcome = .ok report) :
    report.Accounted := by
  obtain ⟨engine, registries, -, -, rfl⟩ := (run_outcome ..).mp h
  have hn := UnifiedRule.ids_ofScan_nodup (registries.decorate plan.title engine)
  constructor
  · exact hn
  · exact fun result hr => Converter.ruleId_known hr
  · exact fun status card hc => CardsView.card_known hn hc
  · exact CardsView.shown_perm fun result hr => Converter.ruleId_known hr
  · exact fun status card hc => CardsView.placed hn hc
  · intro rule hr
    by_cases hu : rule.id ∈ (Converter.results { rules := registries.rules, uids } plan.mode
        (registries.decorate plan.title engine)).map (·.ruleId)
    · exact .inr (CardsView.showsUsed_of_mem hn hr hu)
    · exact .inl (CardsView.showsUnused_of_not_mem hn hr hu)

/-- A rule that fails twice and passes once, and one that does not apply. -/
def mixedText : String :=
  "\x7b\"violations\":[\x7b\"id\":\"alt\",\"nodes\":["
    ++ "\x7b\"target\":[\"a\"],\"any\":[\x7b\"id\":\"has-alt\"\x7d]\x7d,"
    ++ "\x7b\"target\":[\"b\"],\"any\":[\x7b\"id\":\"has-alt\"\x7d]\x7d]\x7d],"
    ++ "\"passes\":[\x7b\"id\":\"alt\",\"nodes\":["
    ++ "\x7b\"target\":[\"c\"],\"any\":[\x7b\"id\":\"has-alt\"\x7d]\x7d]\x7d],"
    ++ "\"inapplicable\":[\x7b\"id\":\"title\"\x7d]\x7d"

theorem accounted_mixed :
    ∃ report, (run {} {} mixedText fun _ => "uid").outcome = .ok report ∧
      report.unified.rules.map (·.id) = ["alt", "title"] ∧
      report.unified.results.map (·.uid) = ["uid", "uid", "uid"] ∧
      report.cards.cards.pass.map (·.nodes.map (·.result.status)) = [[.pass]] ∧
      report.cards.cards.fail.map (·.nodes.map (·.result.status)) = [[.fail, .fail]] ∧
      report.cards.cards.shown.length = 3 ∧ report.Accounted := by
  have hrun : ((run {} {} mixedText fun _ => "uid").outcome.toOption.map fun report =>
      (report.unified.rules.map (·.id), report.unified.results.map (·.uid),
        report.cards.cards.pass.map (·.nodes.map (·.result.status)),
        report.cards.cards.fail.map (·.nodes.map (·.result.status))))
        = some (["alt", "title"], ["uid", "uid", "uid"], [[.pass]], [[.fail, .fail]]) := by
    decide +kernel
  obtain ⟨report, hreport, hfacts⟩ := Option.map_eq_some_iff.mp hrun
  simp only [Prod.mk.injEq] at hfacts
  obtain ⟨hrules, huids, hpass, hfail⟩ := hfacts
  have hok := toOption_eq_some.mp hreport
  have hall := accounted hok
  have hlength : report.cards.cards.shown.length = 3 := by
    have hsame := congrArg List.length huids
    rw [List.length_map] at hsame
    exact hall.shownOnce.length_eq.trans hsame
  exact ⟨report, hok, hrules, huids, hpass, hfail, hlength, hall⟩

end Report
end AccessReport
