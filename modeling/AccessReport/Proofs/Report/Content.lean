import AccessReport.Proofs.Outcomes
import AccessReport.Proofs.Report.Accounting
import AccessReport.Report
/-!
# The content of a report

A report mixes what a scan found with two other things: uids, which come from a supply, and the
state of the user interface, which comes from a selection. Its content is what is left without
them. Making cards commutes with leaving them out, one result after the other, so that the content
of a view is the view of the results' contents under an empty selection. Uids and state can
therefore not decide which cards there are, nor what is on them.

* `CardsView.place_content`: the place of a card has nothing to do with uids and state.
* `CardsView.addResult_content`, `CardsView.foldl_addResult_content`: one result, and all of them.
* `CardsView.content_of`: the content of a view.
* `Converter.content_results`: the content of results does not depend on uids.
* `Report.content_independent`: what two reports on one scan share, whatever their modes,
  selections and uids.
-/
namespace AccessReport

/-! ## Content -/

def UnifiedResult.content (result : UnifiedResult) : UnifiedResult := { result with uid := "" }

def CardResult.content (held : CardResult) : CardResult where
  result := held.result.content
  isSelected := false
  highlightStatus := none

def RuleCard.content (card : RuleCard) : RuleCard :=
  { card with nodes := card.nodes.map CardResult.content, isExpanded := false }

def CardsByStatus.content (cards : CardsByStatus) : CardsByStatus where
  pass := cards.pass.map RuleCard.content
  fail := cards.fail.map RuleCard.content
  inapplicable := cards.inapplicable.map RuleCard.content
  unknown := cards.unknown.map RuleCard.content

/-- A view without the state of the user interface: nothing is selected, highlighted or expanded. -/
def CardsView.content (view : CardsView) : CardsView where
  cards := view.cards.content
  visualHelperEnabled := false
  allCardsCollapsed := true

theorem CardsByStatus.get_content (cards : CardsByStatus) (status : CardStatus) :
    cards.content.get status = (cards.get status).map RuleCard.content := by
  cases status <;> rfl

/-! ## Cards -/

namespace CardsView

variable (rules : List UnifiedRule) (selection : Selection)

theorem emptyCard_content (status : CardStatus) (rule : UnifiedRule) :
    (emptyCard selection status rule).content = emptyCard {} status rule := by
  simp [emptyCard, RuleCard.content]

theorem cardResult_content (status : CardStatus) (result : UnifiedResult) :
    (cardResult selection status result).content = cardResult {} status result.content := by
  simp [cardResult, CardResult.content]

/-- The loop's state without what the user interface has to do with it. -/
def Filling.content (filling : Filling) : Filling := { filling with cards := filling.cards.content }

theorem modify_content (cards : CardsByStatus) (status : CardStatus)
    {change changed : List RuleCard → List RuleCard}
    (h : ∀ held, (change held).map RuleCard.content = changed (held.map RuleCard.content)) :
    (cards.modify status change).content = cards.content.modify status changed := by
  cases status <;> simp [CardsByStatus.modify, CardsByStatus.content, h]

theorem push_content (cards : CardsByStatus) (status : CardStatus) (rule : UnifiedRule) :
    (cards.push status (emptyCard selection status rule)).content
      = cards.content.push status (emptyCard {} status rule) :=
  modify_content cards status fun held => by
    rw [List.map_append, List.map_singleton, emptyCard_content]

theorem map_modify_hold (held : CardResult) (position : Nat) (cards : List RuleCard) :
    (cards.modify position (hold held)).map RuleCard.content
      = (cards.map RuleCard.content).modify position (hold held.content) := by
  refine List.ext_getElem? fun k => ?_
  rw [List.getElem?_map, List.getElem?_modify, List.getElem?_modify, List.getElem?_map]
  cases cards[k]? with
  | none => rfl
  | some card =>
    simp only [Option.map_some, Functor.map]
    split
    · simp [hold, RuleCard.content]
    · rfl

/-- A card is placed by its rule and its status alone. -/
theorem place_content (status : CardStatus) (ruleId : String) (filling : Filling) :
    place rules {} status ruleId filling.content
      = (place rules selection status ruleId filling).map fun placed =>
          (placed.1, placed.2.content) := by
  have hpositions : filling.content.positions = filling.positions := rfl
  have hlength : (filling.content.cards.get status).length = (filling.cards.get status).length := by
    rw [Filling.content, CardsByStatus.get_content, List.length_map]
  rw [place, place, hpositions]
  cases filling.positions.lookup (status, ruleId) with
  | some position => rfl
  | none =>
    cases ruleOf? rules ruleId with
    | none => rfl
    | some rule =>
      simp only [Option.map_some, hlength]
      simp only [Filling.content, push_content]

/-- One more result: the card that it goes onto is found by its rule and its status alone. -/
theorem addResult_content (filling : Filling) (result : UnifiedResult) :
    (addResult rules selection filling result).content
      = addResult rules {} filling.content result.content := by
  have hrule : result.content.ruleId = result.ruleId := rfl
  have hstatus : result.content.status = result.status := rfl
  rw [addResult, addResult, hrule, hstatus, place_content rules selection]
  cases place rules selection result.status.toCardStatus result.ruleId filling with
  | none => rfl
  | some placed =>
    simp only [Option.map_some, Filling.content]
    rw [modify_content _ _ fun held => map_modify_hold _ placed.1 held, cardResult_content]
    rfl

theorem foldl_addResult_content (results : List UnifiedResult) (filling : Filling) :
    (results.foldl (addResult rules selection) filling).content
      = (results.map UnifiedResult.content).foldl (addResult rules {}) filling.content := by
  induction results generalizing filling with
  | nil => rfl
  | cons result results ih =>
    rw [List.foldl_cons, List.map_cons, List.foldl_cons, ih, addResult_content]

theorem addUnmet_content (filling : Filling) (rule : UnifiedRule) :
    (addUnmet selection filling rule).content = addUnmet {} filling.content rule := by
  have hseen : filling.content.seen = filling.seen := rfl
  rw [addUnmet, addUnmet, hseen]
  split
  · rfl
  · simp only [Filling.content, push_content]

theorem foldl_addUnmet_content (filling : Filling) :
    (rules.foldl (addUnmet selection) filling).content
      = rules.foldl (addUnmet {}) filling.content := by
  induction rules generalizing filling with
  | nil => rfl
  | cons rule rules ih => rw [List.foldl_cons, List.foldl_cons, ih, addUnmet_content]

/-- The content of a view is what is shown of the results without their uids while nothing is
selected. -/
theorem content_of (results : List UnifiedResult) :
    (of rules results selection).content = of rules (results.map UnifiedResult.content) {} := by
  have hcards := foldl_addUnmet_content rules selection
    (results.foldl (addResult rules selection) {})
  rw [foldl_addResult_content rules selection results {}] at hcards
  exact congrArg (fun filling : Filling => CardsView.mk filling.cards false true) hcards

end CardsView

theorem CardCounts.instances_content (cards : List RuleCard) :
    instances (cards.map RuleCard.content) = instances cards := by
  simp [instances, List.flatMap_map, RuleCard.content, List.length_flatMap]

/-- Totals are taken of the content. -/
theorem CardCounts.ofView_content (view : CardsView) : ofView view.content = ofView view := by
  have hget : ∀ status, view.content.cards.get status
      = (view.cards.get status).map RuleCard.content := view.cards.get_content
  simp only [ofView, hget, List.length_map, instances_content]

/-! ## Results -/

/-- The content of results does not depend on the uids that they get. -/
theorem Converter.content_results (rules : RuleRegistry) (uids : UidSupply)
    (mode : ConversionMode) (scan : ScanResults) :
    (results { rules, uids } mode scan).map UnifiedResult.content
      = (mode.nodesOf scan).map fun taken =>
          .ofNode rules "" taken.1 taken.2.1 taken.2.2 := by
  rw [results_eq, List.map_map]
  conv_rhs => rw [← List.zipIdx_map_fst 0 (mode.nodesOf scan), List.map_map]
  rfl

/-! ## Reports -/

namespace Report

/-- Two reports are on the same decorated scan: they agree on it, and on all of the export but the
results. -/
structure SameScan (report other : Report) : Prop where
  scanResults : report.scanResults = other.scanResults
  rules : report.unified.rules = other.unified.rules
  envelope : { report.unified with rules := [], results := [] }
    = { other.unified with rules := [], results := [] }

/-- Two reports have the same content. -/
structure SameContent (report other : Report) : Prop where
  results : report.unified.results.map UnifiedResult.content
    = other.unified.results.map UnifiedResult.content
  counts : report.counts = other.counts
  cards : report.cards.content = other.cards.content

/-! ## One engine result -/

theorem cards_content_ofScan (plan : ReportPlan) (registries : Registries) (uids : UidSupply)
    (engine : EngineScan) :
    let report := ofScan plan registries uids engine
    report.cards.content
      = .of report.unified.rules (report.unified.results.map UnifiedResult.content) {} :=
  CardsView.content_of ..

theorem counts_ofScan (plan : ReportPlan) (registries : Registries) (uids : UidSupply)
    (engine : EngineScan) :
    let report := ofScan plan registries uids engine
    report.counts = .ofView report.cards.content :=
  (CardCounts.ofView_content _).symm

section
variable {plan other : ReportPlan} (registries : Registries) (uids supply : UidSupply)
  (engine : EngineScan) (htitle : plan.title = other.title)

include htitle in
theorem sameScan_ofScan :
    (ofScan plan registries uids engine).SameScan (ofScan other registries supply engine) := by
  have hscan : registries.decorate plan.title engine = registries.decorate other.title engine := by
    rw [htitle]
  constructor
  · exact hscan
  · exact congrArg UnifiedRule.ofScan hscan
  · simp only [ofScan, UnifiedScanResult.ofScan, hscan]

include htitle in
theorem sameContent_ofScan (hmode : plan.mode = other.mode) :
    (ofScan plan registries uids engine).SameContent (ofScan other registries supply engine) := by
  have hrules := (sameScan_ofScan registries uids supply engine htitle).rules
  have hresults : (ofScan plan registries uids engine).unified.results.map UnifiedResult.content
      = (ofScan other registries supply engine).unified.results.map UnifiedResult.content := by
    simp only [ofScan, UnifiedScanResult.ofScan, Converter.content_results, htitle, hmode]
  have hcards : (ofScan plan registries uids engine).cards.content
      = (ofScan other registries supply engine).cards.content := by
    rw [cards_content_ofScan, cards_content_ofScan, hrules, hresults]
  exact ⟨hresults, by rw [counts_ofScan, counts_ofScan, hcards], hcards⟩

end

/-- **Content.** If a report is made, then one is made on the same text with the same configuration
and title, whatever mode, selection and uids are asked for, and it is on the same decorated scan.
If the modes are the same as well, its content is the same. -/
theorem content_independent {config : Config} {text : String} {plan : ReportPlan}
    {uids : UidSupply} {report : Report}
    (h : (run plan config text uids).outcome = .ok report) (other : ReportPlan)
    (htitle : plan.title = other.title) (supply : UidSupply) :
    ∃ second, (run other config text supply).outcome = .ok second ∧ report.SameScan second ∧
      (plan.mode = other.mode → report.SameContent second) := by
  obtain ⟨engine, registries, hengine, hregistries, rfl⟩ := (run_outcome ..).mp h
  refine ⟨ofScan other registries supply engine,
    (run_outcome ..).mpr ⟨engine, registries, hengine, hregistries, rfl⟩, ?_, fun hmode => ?_⟩
  · exact sameScan_ofScan registries uids supply engine htitle
  · exact sameContent_ofScan registries uids supply engine htitle hmode

/-- A plan under which every result is selected once its uid is drawn, and rules are expanded that
do not all exist. -/
def busyPlan : ReportPlan where
  selection := some {
    selectedResultUids := ["uid"]
    expandedRuleIds := ["alt", "elsewhere"]
    visualHelperEnabled := true
    highlights := [("uid", .visible)] }

/-- One uid for all results, or one for each: the cards are the same but for what is selected. -/
theorem content_independent_mixed :
    ∃ report second,
      (run busyPlan {} mixedText fun _ => "uid").outcome = .ok report ∧
      (run {} {} mixedText fun n => toString n).outcome = .ok second ∧
      ((report.cards.cards.get .fail).flatMap (·.nodes)).map (·.isSelected) = [true, true] ∧
      report.SameScan second ∧ report.SameContent second := by
  have hrun : ((run busyPlan {} mixedText fun _ => "uid").outcome.toOption.map fun report =>
      ((report.cards.cards.get .fail).flatMap (·.nodes)).map (·.isSelected))
        = some [true, true] := by
    decide +kernel
  obtain ⟨report, hreport, hselected⟩ := Option.map_eq_some_iff.mp hrun
  have hok := toOption_eq_some.mp hreport
  obtain ⟨second, hsecond, hscan, hcontent⟩ :=
    content_independent hok {} rfl fun n => toString n
  exact ⟨report, second, hok, hsecond, hselected, hscan, hcontent rfl⟩

end Report
end AccessReport
