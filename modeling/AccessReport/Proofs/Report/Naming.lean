import AccessReport.Cards.Format
import AccessReport.Proofs.Outcomes
import AccessReport.Proofs.Schema.Naming
import AccessReport.Report
/-!
# Names in exports and cards

The export and the cards of a report are written with fixed names. What a report is made from (ids,
uids, links, marks, highlights) becomes values in them and never names, and the data of checks stays
out altogether. So there is no input that brings a name that offends into what is written.

Results:
* `UnifiedScanResult.wellNamed_toJson`: an export, from its parts up.
* `CardsView.wellNamed_toJson`: a view of the cards, from its parts up.
* `Report.exports_named`: what is written of a report that was made, and what is looked for in it.
-/
namespace AccessReport

open Json
open Naming

/-! ## Exports and views -/

theorem GuidanceTag.wellNamed_toJson (tag : GuidanceTag) : WellNamed tag.toJson := by
  simp +decide [toJson]

theorem GuidanceLink.wellNamed_toJson (link : GuidanceLink) : WellNamed link.toJson := by
  simp only [toJson, wellNamed_object, List.forall_mem_append, forall_mem_member,
    forall_mem_memberIfSome]
  simp +decide [GuidanceTag.wellNamed_toJson]

theorem UnifiedRule.wellNamed_toJson (rule : UnifiedRule) : WellNamed rule.toJson := by
  simp +decide [toJson, GuidanceLink.wellNamed_toJson]

theorem Identifiers.wellNamed_toJson (identifiers : Identifiers) :
    WellNamed identifiers.toJson := by
  simp +decide [toJson]

theorem Descriptors.wellNamed_toJson (descriptors : Descriptors) :
    WellNamed descriptors.toJson := by
  simp +decide [toJson]

theorem HowToFix.wellNamed_toJson (fix : HowToFix) : WellNamed fix.toJson := by
  simp +decide [toJson]

theorem Resolution.wellNamed_toJson (resolution : Resolution) : WellNamed resolution.toJson := by
  simp only [toJson, wellNamed_object, List.forall_mem_append, forall_mem_memberIfSome]
  simp +decide [HowToFix.wellNamed_toJson]

theorem UnifiedResult.wellNamed_members (result : UnifiedResult) :
    ∀ member ∈ result.members, isAllowed member.1 = true ∧ WellNamed member.2 := by
  simp +decide [members, Identifiers.wellNamed_toJson, Descriptors.wellNamed_toJson,
    Resolution.wellNamed_toJson]

theorem UnifiedResult.wellNamed_toJson (result : UnifiedResult) : WellNamed result.toJson :=
  (wellNamed_object _).mpr result.wellNamed_members

theorem UnifiedScanResult.wellNamed_toJson (scan : UnifiedScanResult) : WellNamed scan.toJson := by
  simp +decide [toJson, ToolInfo.toJson, TargetAppInfo.toJson, UnifiedRule.wellNamed_toJson,
    UnifiedResult.wellNamed_toJson]

theorem CardResult.wellNamed_toJson (card : CardResult) : WellNamed card.toJson := by
  simp only [toJson, wellNamed_object, List.forall_mem_append, forall_mem_member,
    forall_mem_memberIfSome]
  refine ⟨⟨card.result.wellNamed_members, ?_⟩, ?_⟩ <;> simp +decide

theorem RuleCard.wellNamed_toJson (card : RuleCard) : WellNamed card.toJson := by
  simp +decide [toJson, CardResult.wellNamed_toJson, GuidanceLink.wellNamed_toJson]

theorem CardsView.wellNamed_toJson (view : CardsView) : WellNamed view.toJson := by
  simp +decide [toJson, CardsByStatus.toJson, RuleCard.wellNamed_toJson]

namespace Report

/-- **Naming.** Whatever a report was made from, no name in its export or its cards offends, with
the members in the order of the format or sorted. What is looked for is found: a value is refused if
and only if a name offends at some place in it, and then all that offend are listed, place by
place. -/
theorem exports_named (plan : ReportPlan) (config : Config) (text : String) (uids : UidSupply) :
    (∀ report, (run plan config text uids).outcome = .ok report →
      ∀ artifact ∈ [report.unified.toJson, report.cards.toJson],
        offending artifact = [] ∧ offending artifact.sorted = [] ∧
        ∀ place name, artifact.nameAt? place = some name → Conventional name) ∧
    ∀ value : Json,
      (offending value ≠ [] ↔
        ∃ place name, value.nameAt? place = some name ∧ ¬Conventional name) ∧
      ∃ placed : List (List Nat × String), placed.Pairwise (·.1 < ·.1) ∧
        (∀ place name, (place, name) ∈ placed ↔
          value.nameAt? place = some name ∧ ¬Conventional name) ∧
        offending value = placed.map (·.2) := by
  constructor
  · intro report _ artifact hartifact
    have hnamed : WellNamed artifact := by
      simp only [List.mem_cons, List.not_mem_nil, or_false] at hartifact
      rcases hartifact with rfl | rfl
      · exact report.unified.wellNamed_toJson
      · exact report.cards.wellNamed_toJson
    refine ⟨(offending_eq_nil _).mpr hnamed, (offending_eq_nil _).mpr hnamed.sorted, ?_⟩
    intro place name hname
    by_contra hbad
    exact (offending_ne_nil_iff artifact).mpr ⟨place, name, hname, hbad⟩
      ((offending_eq_nil _).mpr hnamed)
  · intro value
    exact ⟨offending_ne_nil_iff value, exists_listing_offending value⟩

/-- Names that would offend as names of fields: of a rule, a check, and two in its data. -/
def wildText : String :=
  "\x7b\"violations\":[\x7b\"id\":\"wild_rule\",\"nodes\":[\x7b\"target\":[\"a\"],"
    ++ "\"any\":[\x7b\"id\":\"Wild\",\"message\":\"m\","
    ++ "\"data\":\x7b\"wild_key\":\x7b\"Wilder key\":1\x7d\x7d\x7d]\x7d]\x7d]\x7d"

/-- More of them, of a link and of a mark beside it. -/
def wildConfig : Config where
  rules := [{ id := "wild_rule", guidance := ["wild_link"] }]
  links := [{ id := "wild_link", text := "Link", href := "https://l/",
              tags := [{ id := "wild_tag", displayText := "Mark" }] }]

def wildPlan : ReportPlan where
  selection := some { highlights := [("wild_uid", .hidden)] }

theorem exports_named_wild :
    ∃ report, (run wildPlan wildConfig wildText fun _ => "wild_uid").outcome = .ok report ∧
      report.unified.rules.map (·.id) = ["wild_rule"] ∧
      report.unified.results.map (·.uid) = ["wild_uid"] ∧
      offending report.unified.toJson = [] ∧ offending report.cards.toJson = [] := by
  have hrun : ((run wildPlan wildConfig wildText fun _ => "wild_uid").outcome.toOption.map
      fun report => (report.unified.rules.map (·.id), report.unified.results.map (·.uid)))
        = some (["wild_rule"], ["wild_uid"]) := by
    decide +kernel
  obtain ⟨report, hreport, hfacts⟩ := Option.map_eq_some_iff.mp hrun
  obtain ⟨hrules, huids⟩ := Prod.mk.inj hfacts
  have hok := toOption_eq_some.mp hreport
  have hall := (exports_named wildPlan wildConfig wildText fun _ => "wild_uid").1 report hok
  exact ⟨report, hok, hrules, huids, (hall report.unified.toJson (by simp)).1,
    (hall report.cards.toJson (by simp)).1⟩

end Report
end AccessReport
