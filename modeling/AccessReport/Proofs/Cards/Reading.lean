import AccessReport.Proofs.Cards.Accounting
import AccessReport.Unified.Results
import Mathlib.Data.List.Nodup
/-!
# Reading a view of cards

What a view says can be read off its rules, its results and its selection, without a word about how
the cards are filled. In each status that results have there is one card for every known rule with
a result there, in the order of their first ones; a card holds the results of its rule and status,
all of them and in order; the other rules stand among the inapplicable cards.

* `RuleCard.shows_iff`: a card that shows what it should is the one card of its rule and status.
* `ruleIds_pairwise`: the walk over the results meets the rules in the order of their first results.
* `of_shows`, `Shows.unique`: the view that is made shows this, and no other view does.
* `view_shows`: both together, with what the cards of one status depend on.
-/
namespace AccessReport

/-! ## What cards show -/

/-- A result on a card of a status, with the state that the selection has for it. -/
structure CardResult.Shows (selection : Selection) (status : CardStatus) (card : CardResult) :
    Prop where
  selected : card.isSelected = true ↔
    (status = .fail ∨ status = .unknown) ∧ card.result.uid ∈ selection.selectedResultUids
  highlight : card.highlightStatus = selection.highlights.lookup card.result.uid

/-- A card of a status, with the texts of its rule and all results of the rule in that status. -/
structure RuleCard.Shows (rules : List UnifiedRule) (results : List UnifiedResult)
    (selection : Selection) (status : CardStatus) (card : RuleCard) : Prop where
  rule : ∃ rule ∈ rules, rule.id = card.id ∧ card.description = rule.description ∧
    card.url = rule.url ∧ card.guidance = rule.guidance
  placed : card.status = status
  held : card.nodes.map (·.result) = results.filter fun result =>
    decide (result.status.ShownAs status ∧ result.ruleId = card.id)
  nodes : ∀ node ∈ card.nodes, node.Shows selection status
  expanded : card.isExpanded = true ↔
    (status = .fail ∨ status = .unknown) ∧ card.id ∈ selection.expandedRuleIds

namespace CardsView

/-- Where the first result of a rule in a status stands. -/
def firstIndex (results : List UnifiedResult) (status : CardStatus) (ruleId : String) : Nat :=
  results.findIdx fun result =>
    decide (result.status.ShownAs status ∧ result.ruleId = ruleId)

/-- The card of a rule that no result is about. -/
def unusedCard (rule : UnifiedRule) : RuleCard where
  id := rule.id
  status := .inapplicable
  nodes := []
  description := rule.description
  url := rule.url
  guidance := rule.guidance
  isExpanded := false

/-- A view as it can be read off its rules, its results and its selection. -/
structure Shows (rules : List UnifiedRule) (results : List UnifiedResult) (selection : Selection)
    (view : CardsView) : Prop where
  cards : ∀ status, status ≠ .inapplicable → ∀ card ∈ view.cards.get status,
    card.Shows rules results selection status
  ids : ∀ status, status ≠ .inapplicable → ∀ ruleId,
    ruleId ∈ (view.cards.get status).map (·.id) ↔ ruleId ∈ rules.map (·.id) ∧
      ∃ result ∈ results, result.status.ShownAs status ∧ result.ruleId = ruleId
  /-- No two cards of a status have the same first result, so none is for the same rule. -/
  ordered : ∀ status, status ≠ .inapplicable → (view.cards.get status).Pairwise fun card later =>
    firstIndex results status card.id < firstIndex results status later.id
  unused : view.cards.get .inapplicable
    = (rules.filter fun rule => decide (rule.id ∉ results.map (·.ruleId))).map unusedCard
  collapsed : view.allCardsCollapsed = true ↔ selection.expandedRuleIds = []
  helper : view.visualHelperEnabled = selection.visualHelperEnabled

/-! ## One card -/

theorem isInteractive_iff {status : CardStatus} :
    status.isInteractive = true ↔ status = .fail ∨ status = .unknown := by
  cases status <;> decide

theorem onCard_eq (results : List UnifiedResult) (status : CardStatus) (ruleId : String) :
    onCard results status ruleId = results.filter fun result =>
      decide (result.status.ShownAs status ∧ result.ruleId = ruleId) := by
  rw [onCard, inStatus, List.filter_filter]
  refine List.filter_congr fun result _ => ?_
  simp only [ResultStatus.shownAs_iff, Bool.decide_and, Bool.and_comm]

theorem cardResult_shows (selection : Selection) (status : CardStatus) (result : UnifiedResult) :
    (cardResult selection status result).Shows selection status where
  selected := by
    rw [cardResult, Bool.and_eq_true, isInteractive_iff, List.contains_iff_mem]
  highlight := rfl

/-- The state of the user interface leaves no choice for a result on a card. -/
theorem eq_cardResult {selection : Selection} {status : CardStatus} {card : CardResult}
    (h : card.Shows selection status) : card = cardResult selection status card.result := by
  have hmade := cardResult_shows selection status card.result
  have hselected : card.isSelected = (cardResult selection status card.result).isSelected :=
    Bool.eq_iff_iff.mpr (h.selected.trans hmade.selected.symm)
  have hhighlight := h.highlight.trans hmade.highlight.symm
  obtain ⟨result, isSelected, highlightStatus⟩ := card
  exact congrArg₂ (CardResult.mk result) hselected hhighlight

section
variable {rules : List UnifiedRule} {results : List UnifiedResult} {selection : Selection}

/-- A rule is found under its id, if no other rule has it. -/
theorem ruleOf?_of_mem (hn : (rules.map (·.id)).Nodup) {rule : UnifiedRule} (hr : rule ∈ rules) :
    ruleOf? rules rule.id = some rule := by
  obtain ⟨found, hfound⟩ :=
    Option.isSome_iff_exists.mp (ruleOf?_isSome.mpr (List.mem_map_of_mem hr))
  have hmem : found ∈ rules := List.mem_reverse.mp (List.mem_of_find?_eq_some hfound)
  rw [hfound, List.inj_on_of_nodup_map hn hmem hr (ruleOf?_id hfound)]

/-- A card that shows what it should is the one card of its rule and status. -/
theorem shows_iff (hn : (rules.map (·.id)).Nodup) {status : CardStatus} {card : RuleCard} :
    card.Shows rules results selection status ↔
      cardOf? rules selection results status card.id = some card := by
  constructor
  · intro h
    obtain ⟨rule, hr, hid, hdescription, hurl, hguidance⟩ := h.rule
    have hnodes : card.nodes
        = (onCard results status card.id).map (cardResult selection status) := by
      rw [onCard_eq, ← h.held, List.map_map]
      exact ((List.map_congr_left fun node hm => (eq_cardResult (h.nodes node hm)).symm).trans
        (List.map_id' card.nodes)).symm
    have hexpanded : card.isExpanded = (emptyCard selection status rule).isExpanded := by
      rw [Bool.eq_iff_iff, h.expanded, emptyCard, Bool.and_eq_true, isInteractive_iff,
        List.contains_iff_mem, hid]
    rw [cardOf?, ← hid, ruleOf?_of_mem hn hr, Option.map_some, hid, ← hnodes, Option.some_inj]
    cases card
    simp only [emptyCard, RuleCard.mk.injEq, true_and]
    exact ⟨hid, h.placed.symm, hdescription.symm, hurl.symm, hguidance.symm, hexpanded.symm⟩
  · intro h
    have hresults := results_of_cardOf? h
    obtain ⟨rule, hr, hcard⟩ := Option.map_eq_some_iff.mp h
    have hmem : rule ∈ rules := List.mem_reverse.mp (List.mem_of_find?_eq_some hr)
    rw [← hcard] at hresults ⊢
    constructor
    · exact ⟨rule, hmem, rfl, rfl, rfl, rfl⟩
    · rfl
    · rw [hresults, onCard_eq, ← ruleOf?_id hr]
    · intro node hnode
      obtain ⟨result, -, rfl⟩ := List.mem_map.mp hnode
      exact cardResult_shows selection status result
    · exact (Bool.and_eq_true_iff).trans
        (and_congr isInteractive_iff List.contains_iff_mem)

/-! ## The order of cards -/

theorem firstIndex_lt {status : CardStatus} {ruleId : String}
    (h : ruleId ∈ ruleIds results status) : firstIndex results status ruleId < results.length := by
  obtain ⟨result, hr, hs, hid⟩ := mem_ruleIds.mp h
  exact List.findIdx_lt_length.mpr
    ⟨result, hr, decide_eq_true ⟨ResultStatus.shownAs_iff.mpr hs, hid⟩⟩

/-- More results at the end do not change which result of a rule is the first. -/
theorem firstIndex_concat_of_mem {status : CardStatus} {ruleId : String}
    (h : ruleId ∈ ruleIds results status) (result : UnifiedResult) :
    firstIndex (results ++ [result]) status ruleId = firstIndex results status ruleId := by
  have hlt := firstIndex_lt h
  rw [firstIndex] at hlt ⊢
  rw [List.findIdx_append, if_pos hlt, firstIndex]

theorem firstIndex_concat_of_not_mem {status : CardStatus} {result : UnifiedResult}
    (hs : result.status.toCardStatus = status) (h : result.ruleId ∉ ruleIds results status) :
    firstIndex (results ++ [result]) status result.ruleId = results.length := by
  have hshown := ResultStatus.shownAs_iff.mpr hs
  have hnone : ∀ other ∈ results, decide (other.status.ShownAs status ∧
      other.ruleId = result.ruleId) = false := by
    intro other ho
    rw [decide_eq_false_iff_not, ResultStatus.shownAs_iff]
    exact fun hc => h (mem_ruleIds.mpr ⟨other, ho, hc⟩)
  rw [firstIndex, List.findIdx_append, List.findIdx_eq_length.mpr hnone,
    if_neg (Nat.lt_irrefl _), List.findIdx_cons, decide_eq_true ⟨hshown, rfl⟩]
  simp

/-- The walk over the results meets the rules in the order of their first results. -/
theorem ruleIds_pairwise (results : List UnifiedResult) (status : CardStatus) :
    (ruleIds results status).Pairwise fun ruleId later =>
      firstIndex results status ruleId < firstIndex results status later := by
  induction results using List.reverseRecOn with
  | nil => exact .nil
  | append_singleton results result ih =>
    have hheld : (ruleIds results status).Pairwise fun ruleId later =>
        firstIndex (results ++ [result]) status ruleId
          < firstIndex (results ++ [result]) status later := by
      refine ih.imp_of_mem fun hm hl hlt => ?_
      rwa [firstIndex_concat_of_mem hm, firstIndex_concat_of_mem hl]
    rw [ruleIds_concat]
    split
    · rename_i hnew
      rw [List.pairwise_append]
      refine ⟨hheld, List.pairwise_singleton .., fun ruleId hm later hl => ?_⟩
      rw [List.mem_singleton.mp hl, firstIndex_concat_of_mem hm,
        firstIndex_concat_of_not_mem hnew.1 hnew.2]
      exact firstIndex_lt hm
    · exact hheld

/-! ## The whole view -/

/-- The view that is made shows what can be read off its inputs. -/
theorem of_shows (hn : (rules.map (·.id)).Nodup) (results : List UnifiedResult)
    (selection : Selection) : (of rules results selection).Shows rules results selection where
  cards status hs card hc := by
    change card ∈ (cardsOf rules results selection).get status at hc
    rw [get_cardsOf rules results selection hs] at hc
    obtain ⟨ruleId, -, hcard⟩ := mem_groups.mp hc
    rw [shows_iff hn, cardOf?_id hcard, hcard]
  ids status hs ruleId := by
    change ruleId ∈ ((cardsOf rules results selection).get status).map (·.id) ↔ _
    rw [get_cardsOf rules results selection hs, ids_groups, List.mem_filter, ruleOf?_isSome,
      mem_ruleIds, and_comm]
    simp only [ResultStatus.shownAs_iff]
  ordered status hs := by
    have hids : ((groups rules selection results status).map (·.id)).Pairwise fun ruleId later =>
        firstIndex results status ruleId < firstIndex results status later := by
      rw [ids_groups]
      exact (ruleIds_pairwise results status).filter _
    change ((cardsOf rules results selection).get status).Pairwise _
    rw [get_cardsOf rules results selection hs]
    exact (List.pairwise_map (f := RuleCard.id)).mp hids
  unused := by
    change (cardsOf rules results selection).get .inapplicable = _
    rw [get_cardsOf_inapplicable hn]
    rfl
  collapsed := List.isEmpty_iff
  helper := rfl

/-- Cards that each are the card of their rule are given by their ids. -/
theorem eq_filterMap_ids {status : CardStatus} {cards : List RuleCard}
    (h : ∀ card ∈ cards, cardOf? rules selection results status card.id = some card) :
    cards = (cards.map (·.id)).filterMap (cardOf? rules selection results status) := by
  rw [List.filterMap_map]
  refine ((List.filterMap_congr fun card hc => ?_).trans List.filterMap_some).symm
  exact h card hc

theorem Shows.ids_pairwise {view : CardsView} (h : view.Shows rules results selection)
    {status : CardStatus} (hs : status ≠ .inapplicable) :
    ((view.cards.get status).map (·.id)).Pairwise fun ruleId later =>
      firstIndex results status ruleId < firstIndex results status later :=
  List.pairwise_map.mpr (h.ordered status hs)

theorem Shows.ids_nodup {view : CardsView} (h : view.Shows rules results selection)
    {status : CardStatus} (hs : status ≠ .inapplicable) :
    ((view.cards.get status).map (·.id)).Nodup := by
  refine (h.ids_pairwise hs).imp fun hlt he => ?_
  rw [he] at hlt
  exact Nat.lt_irrefl _ hlt

/-- In one status two views that show the same have the same cards. -/
theorem Shows.get_eq {view other : CardsView} (hn : (rules.map (·.id)).Nodup)
    (h : view.Shows rules results selection) (h' : other.Shows rules results selection)
    {status : CardStatus} (hs : status ≠ .inapplicable) :
    view.cards.get status = other.cards.get status := by
  have hperm : ((view.cards.get status).map (·.id)).Perm ((other.cards.get status).map (·.id)) := by
    rw [List.perm_ext_iff_of_nodup (h.ids_nodup hs) (h'.ids_nodup hs)]
    intro ruleId
    rw [h.ids status hs, h'.ids status hs]
  have hids := hperm.eq_of_pairwise (fun _ _ _ _ hlt hgt => absurd hlt (Nat.lt_asymm hgt))
    (h.ids_pairwise hs) (h'.ids_pairwise hs)
  rw [eq_filterMap_ids fun card hc => (shows_iff hn).mp (h.cards status hs card hc), hids,
    ← eq_filterMap_ids fun card hc => (shows_iff hn).mp (h'.cards status hs card hc)]

/-- There is no other view that shows the same. -/
theorem Shows.unique {view other : CardsView} (hn : (rules.map (·.id)).Nodup)
    (h : view.Shows rules results selection) (h' : other.Shows rules results selection) :
    view = other := by
  have hpass := h.get_eq hn h' (show CardStatus.pass ≠ .inapplicable by decide)
  have hfail := h.get_eq hn h' (show CardStatus.fail ≠ .inapplicable by decide)
  have hunknown := h.get_eq hn h' (show CardStatus.unknown ≠ .inapplicable by decide)
  have hunused := h.unused.trans h'.unused.symm
  have hcollapsed := Bool.eq_iff_iff.mpr (h.collapsed.trans h'.collapsed.symm)
  have hhelper := h.helper.trans h'.helper.symm
  obtain ⟨⟨pass, fail, inapplicable, unknown⟩, helper, collapsed⟩ := view
  cases hpass
  cases hfail
  cases hunknown
  cases hunused
  cases hcollapsed
  cases hhelper
  rfl

end

/-- **Reading.** For rules with distinct ids there is a view, it shows what can be read off rules,
results and selection, and it is the only one that does. Its cards of a status that results have
depend on the results of that status alone. -/
theorem view_shows {rules : List UnifiedRule} (hn : (rules.map (·.id)).Nodup)
    (results : List UnifiedResult) (selection : Selection) :
    ∃ view, view? (some rules) (some results) (some selection) = some view ∧
      view.Shows rules results selection ∧
      (∀ other : CardsView, other.Shows rules results selection → other = view) ∧
      ∀ others otherView status, status ≠ .inapplicable →
        view? (some rules) (some others) (some selection) = some otherView →
        (others.filter fun result => decide (result.status.ShownAs status))
          = (results.filter fun result => decide (result.status.ShownAs status)) →
        otherView.cards.get status = view.cards.get status := by
  have hshows := of_shows hn results selection
  refine ⟨of rules results selection, rfl, hshows, fun other ho => ho.unique hn hshows, ?_⟩
  rintro others _ status hs ⟨⟩ hsame
  change (cardsOf rules others selection).get status = (cardsOf rules results selection).get status
  simp only [ResultStatus.shownAs_iff] at hsame
  have hsame : inStatus others status = inStatus results status := hsame
  have hcard : cardOf? rules selection others status = cardOf? rules selection results status := by
    funext ruleId
    simp only [cardOf?, onCard, hsame]
  rw [get_cardsOf rules others selection hs, get_cardsOf rules results selection hs]
  simp only [groups, ruleIds, hcard, hsame]

/-- A rule of which only the id matters. -/
def bareRule (id : String) : UnifiedRule where
  id := id
  description := ""
  url := ""
  guidance := []

/-- A result of which only uid, status and rule matter. -/
def bareResult (uid : String) (status : ResultStatus) (ruleId : String) : UnifiedResult where
  uid := uid
  status := status
  ruleId := ruleId
  identifiers := .ofTarget []
  descriptors := { snippet := "" }
  resolution := {}

def interleavedRules : List UnifiedRule := ["alt", "title", "list"].map bareRule

/-- Statuses and rules in turn, with a result of an unknown rule and a uid that comes twice. -/
def interleavedResults : List UnifiedResult := [
  bareResult "1" .pass "title", bareResult "2" .fail "gone", bareResult "3" .fail "title",
  bareResult "4" .fail "alt", bareResult "3" .pass "alt", bareResult "5" .fail "title"]

theorem view_shows_interleaved :
    let selection : Selection := { selectedResultUids := ["3"], expandedRuleIds := ["alt"] }
    (interleavedRules.map (·.id)).Nodup ∧ ∃ view,
      view? (some interleavedRules) (some interleavedResults) (some selection) = some view ∧
      view.Shows interleavedRules interleavedResults selection ∧
      (view.cards.fail.map fun card =>
          (card.id, card.isExpanded, card.nodes.map fun node => (node.result.uid, node.isSelected)))
        = [("title", false, [("3", true), ("5", false)]), ("alt", true, [("4", false)])] ∧
      (view.cards.pass.map fun card => (card.id, card.nodes.map (·.isSelected)))
        = [("title", [false]), ("alt", [false])] ∧
      view.cards.inapplicable = [unusedCard (bareRule "list")] := by
  intro selection
  have hn : (interleavedRules.map (·.id)).Nodup := by decide
  obtain ⟨view, hview, hshows, -⟩ := view_shows hn interleavedResults selection
  cases hview
  exact ⟨hn, _, rfl, hshows, by decide +kernel, by decide +kernel, by decide +kernel⟩

end CardsView
end AccessReport
