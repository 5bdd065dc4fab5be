import AccessReport.Proofs.Cards.Groups
import Mathlib.Data.List.Perm.Basic
/-!
# Nothing is lost on the cards

The cards hold every result of the known rules once, in its own status and under its own rule, and
they show every rule: where it has results, or else among the inapplicable ones.

* `shown_perm`: what the cards hold is what they were made from, in another order.
* `placed`: a result is on a card of its status and its rule.
* `showsUnused_of_not_mem`, `showsUsed_of_mem`: the cards of one rule.
-/
namespace AccessReport

namespace CardsByStatus

/-- The results on all cards that can hold some. -/
def shown (cards : CardsByStatus) : List UnifiedResult :=
  [CardStatus.pass, .fail, .unknown].flatMap fun status =>
    (cards.get status).flatMap fun card => card.nodes.map (·.result)

/-- The cards of a rule in a status. -/
def ofRule (cards : CardsByStatus) (status : CardStatus) (ruleId : String) : List RuleCard :=
  (cards.get status).filter fun card => decide (card.id = ruleId)

/-- A rule without results: it has one card, which is inapplicable and empty. -/
structure ShowsUnused (cards : CardsByStatus) (ruleId : String) : Prop where
  inapplicable : ∃ card, cards.ofRule .inapplicable ruleId = [card] ∧ card.nodes = []
  elsewhere : ∀ status, status ≠ .inapplicable → cards.ofRule status ruleId = []

/-- A rule with results: it has a card in some of the other statuses, at most one in each, and
none of them is empty. -/
structure ShowsUsed (cards : CardsByStatus) (ruleId : String) : Prop where
  somewhere : ∃ status, status ≠ .inapplicable ∧ cards.ofRule status ruleId ≠ []
  atMostOne : ∀ status, (cards.ofRule status ruleId).length ≤ 1
  filled : ∀ status, ∀ card ∈ cards.ofRule status ruleId, card.nodes ≠ []
  inapplicable : cards.ofRule .inapplicable ruleId = []

theorem mem_ofRule {cards : CardsByStatus} {status : CardStatus} {ruleId : String}
    {card : RuleCard} :
    card ∈ cards.ofRule status ruleId ↔ card ∈ cards.get status ∧ card.id = ruleId := by
  simp only [ofRule, List.mem_filter, decide_eq_true_eq]

theorem ofRule_length_le {cards : CardsByStatus} {status : CardStatus}
    (h : ((cards.get status).map (·.id)).Nodup) (ruleId : String) :
    (cards.ofRule status ruleId).length ≤ 1 := by
  have hcount := List.nodup_iff_count.mp h ruleId
  rw [List.count_eq_countP, List.countP_map, List.countP_eq_length_filter] at hcount
  exact hcount

end CardsByStatus

namespace CardsView

variable {rules : List UnifiedRule} {results : List UnifiedResult} {selection : Selection}

theorem mem_groups {status : CardStatus} {card : RuleCard} :
    card ∈ groups rules selection results status ↔
      ∃ ruleId ∈ ruleIds results status,
        cardOf? rules selection results status ruleId = some card :=
  List.mem_filterMap

theorem mem_onCard {status : CardStatus} {ruleId : String} {result : UnifiedResult} :
    result ∈ onCard results status ruleId ↔
      result ∈ results ∧ result.status.toCardStatus = status ∧ result.ruleId = ruleId := by
  simp only [onCard, inStatus, List.mem_filter, decide_eq_true_eq, and_assoc]

/-- The results on a card, as the user interface wraps them. -/
theorem results_of_cardOf? {status : CardStatus} {ruleId : String} {card : RuleCard}
    (h : cardOf? rules selection results status ruleId = some card) :
    card.nodes.map (·.result) = onCard results status ruleId := by
  obtain ⟨rule, -, rfl⟩ := Option.map_eq_some_iff.mp h
  exact (List.map_map ..).trans (List.map_id' _)

/-! ## Results -/

section
variable (hk : ∀ result ∈ results, result.ruleId ∈ rules.map (·.id))

include hk in
theorem results_groups (status : CardStatus) :
    (groups rules selection results status).flatMap (fun card => card.nodes.map (·.result))
      = (ruleIds results status).flatMap (onCard results status) := by
  have known : ∀ ruleId ∈ ruleIds results status, ruleId ∈ rules.map (·.id) := by
    intro ruleId hr
    obtain ⟨result, hm, -, rfl⟩ := mem_ruleIds.mp hr
    exact hk result hm
  unfold groups
  generalize ruleIds results status = ids at known
  induction ids with
  | nil => rfl
  | cons ruleId ids ih =>
    obtain ⟨rule, hrule⟩ := Option.isSome_iff_exists.mp
      (ruleOf?_isSome.mpr (known ruleId List.mem_cons_self))
    have hcard : cardOf? rules selection results status ruleId = some { emptyCard selection status
        rule with nodes := (onCard results status ruleId).map (cardResult selection status) } := by
      rw [cardOf?, hrule, Option.map_some]
    rw [List.filterMap_cons_some hcard, List.flatMap_cons, List.flatMap_cons,
      results_of_cardOf? hcard, ih fun other ho => known other (List.mem_cons_of_mem _ ho)]

theorem ruleIds_flatMap_perm (results : List UnifiedResult) (status : CardStatus) :
    ((ruleIds results status).flatMap (onCard results status)).Perm (inStatus results status) := by
  refine Grouping.flatMap_filter_perm UnifiedResult.ruleId _ (Grouping.nodup_eraseDups _) _ ?_
  intro result hr
  exact List.mem_eraseDups.mpr (List.mem_map_of_mem hr)

theorem inStatus_flatMap_perm (results : List UnifiedResult) :
    ([CardStatus.pass, .fail, .unknown].flatMap (inStatus results)).Perm results := by
  refine Grouping.flatMap_filter_perm (fun result : UnifiedResult => result.status.toCardStatus)
    _ (by decide) results ?_
  intro result _
  cases result.status <;> decide

include hk in
/-- What the cards hold is what they were made from, in another order. -/
theorem shown_perm : (cardsOf rules results selection).shown.Perm results := by
  refine List.Perm.trans ?_ (inStatus_flatMap_perm results)
  unfold CardsByStatus.shown
  refine List.Perm.flatMap_left _ fun status hs => ?_
  have hne : status ≠ .inapplicable := by
    rintro rfl
    exact absurd hs (by decide)
  rw [get_cardsOf rules results selection hne, results_groups hk]
  exact ruleIds_flatMap_perm results status

end

/-! ## Cards -/

section
variable (hn : (rules.map (·.id)).Nodup)

include hn in
/-- An inapplicable card is the empty one of a rule that no result is about. -/
theorem mem_get_inapplicable {card : RuleCard} :
    card ∈ (cardsOf rules results selection).get .inapplicable ↔
      ∃ rule ∈ rules, rule.id ∉ results.map (·.ruleId) ∧
        emptyCard selection .inapplicable rule = card := by
  rw [get_cardsOf_inapplicable hn, List.mem_map]
  simp only [List.mem_filter, decide_eq_true_eq, and_assoc]

include hn in
/-- A result is on a card of its status and its rule. -/
theorem placed {status : CardStatus} {card : RuleCard}
    (hc : card ∈ (cardsOf rules results selection).get status) :
    card.status = status ∧ ∀ node ∈ card.nodes,
      node.result.status.ShownAs status ∧ node.result.ruleId = card.id := by
  by_cases hs : status = .inapplicable
  · subst hs
    obtain ⟨rule, -, -, rfl⟩ := (mem_get_inapplicable hn).mp hc
    refine ⟨rfl, fun node hnode => ?_⟩
    cases hnode
  · rw [get_cardsOf rules results selection hs] at hc
    obtain ⟨ruleId, -, hcard⟩ := mem_groups.mp hc
    constructor
    · obtain ⟨rule, -, rfl⟩ := Option.map_eq_some_iff.mp hcard
      rfl
    · intro node hnode
      have hm := List.mem_map_of_mem (f := (·.result)) hnode
      rw [results_of_cardOf? hcard] at hm
      obtain ⟨-, hstatus, hrule⟩ := mem_onCard.mp hm
      exact ⟨ResultStatus.shownAs_iff.mpr hstatus, hrule.trans (cardOf?_id hcard).symm⟩

include hn in
theorem card_known {status : CardStatus} {card : RuleCard}
    (hc : card ∈ (cardsOf rules results selection).get status) :
    card.id ∈ rules.map (·.id) := by
  by_cases hs : status = .inapplicable
  · subst hs
    obtain ⟨rule, hr, -, rfl⟩ := (mem_get_inapplicable hn).mp hc
    exact List.mem_map_of_mem hr
  · rw [get_cardsOf rules results selection hs] at hc
    obtain ⟨ruleId, -, hcard⟩ := mem_groups.mp hc
    obtain ⟨rule, hr, -⟩ := Option.map_eq_some_iff.mp hcard
    rw [cardOf?_id hcard]
    exact ruleOf?_isSome.mp (Option.isSome_iff_exists.mpr ⟨rule, hr⟩)

include hn in
theorem ids_get_nodup (status : CardStatus) :
    (((cardsOf rules results selection).get status).map (·.id)).Nodup := by
  by_cases hs : status = .inapplicable
  · subst hs
    rw [get_cardsOf_inapplicable hn, List.map_map]
    exact (List.filter_sublist.map _).nodup hn
  · rw [get_cardsOf rules results selection hs]
    exact ids_groups_nodup results status

/-- A card that can hold results was made for one. -/
theorem exists_result_of_card {status : CardStatus} {card : RuleCard}
    (hs : status ≠ .inapplicable)
    (hc : card ∈ (cardsOf rules results selection).get status) :
    card.nodes ≠ [] ∧ card.id ∈ results.map (·.ruleId) := by
  rw [get_cardsOf rules results selection hs] at hc
  obtain ⟨ruleId, hid, hcard⟩ := mem_groups.mp hc
  obtain ⟨result, hr, hstatus, hrule⟩ := mem_ruleIds.mp hid
  constructor
  · intro hnil
    have hempty := results_of_cardOf? hcard
    rw [hnil, List.map_nil] at hempty
    have hmem := mem_onCard.mpr ⟨hr, hstatus, hrule⟩
    rw [← hempty] at hmem
    cases hmem
  · rw [cardOf?_id hcard, ← hrule]
    exact List.mem_map_of_mem hr

include hn in
/-- A rule that no result is about. -/
theorem showsUnused_of_not_mem {rule : UnifiedRule} (hr : rule ∈ rules)
    (hu : rule.id ∉ results.map (·.ruleId)) :
    (cardsOf rules results selection).ShowsUnused rule.id where
  inapplicable := by
    have hmem : emptyCard selection .inapplicable rule
        ∈ (cardsOf rules results selection).ofRule .inapplicable rule.id :=
      CardsByStatus.mem_ofRule.mpr ⟨(mem_get_inapplicable hn).mpr ⟨rule, hr, hu, rfl⟩, rfl⟩
    have hlength := List.length_pos_of_mem hmem
    have hids : (((cardsOf rules results selection).get .inapplicable).map (·.id)).Nodup :=
      ids_get_nodup hn .inapplicable
    have hle := CardsByStatus.ofRule_length_le hids rule.id
    obtain ⟨card, hcard⟩ := List.length_eq_one_iff.mp (Nat.le_antisymm hle hlength)
    rw [hcard, List.mem_singleton] at hmem
    exact ⟨card, hcard, hmem ▸ rfl⟩
  elsewhere := by
    intro status hs
    rw [List.eq_nil_iff_forall_not_mem]
    intro card hm
    obtain ⟨hc, hid⟩ := CardsByStatus.mem_ofRule.mp hm
    exact hu (hid ▸ (exists_result_of_card hs hc).2)

include hn in
/-- A rule that some result is about. -/
theorem showsUsed_of_mem {rule : UnifiedRule} (hr : rule ∈ rules)
    (hu : rule.id ∈ results.map (·.ruleId)) :
    (cardsOf rules results selection).ShowsUsed rule.id := by
  have hnone : (cardsOf rules results selection).ofRule .inapplicable rule.id = [] := by
    rw [List.eq_nil_iff_forall_not_mem]
    intro card hm
    obtain ⟨hc, hid⟩ := CardsByStatus.mem_ofRule.mp hm
    obtain ⟨other, -, hother, rfl⟩ := (mem_get_inapplicable hn).mp hc
    have hsame : other.id = rule.id := hid
    exact hother (hsame ▸ hu)
  constructor
  · obtain ⟨result, hm, hid⟩ := List.mem_map.mp hu
    have hs : result.status.toCardStatus ≠ .inapplicable := by
      cases result.status <;> decide
    refine ⟨result.status.toCardStatus, hs, ?_⟩
    have hcard : rule.id ∈ ((cardsOf rules results selection).get
        result.status.toCardStatus).map (·.id) := by
      rw [get_cardsOf rules results selection hs, ids_groups, List.mem_filter]
      exact ⟨mem_ruleIds.mpr ⟨result, hm, rfl, hid⟩,
        ruleOf?_isSome.mpr (List.mem_map_of_mem hr)⟩
    obtain ⟨card, hc, hcid⟩ := List.mem_map.mp hcard
    exact List.ne_nil_of_mem (CardsByStatus.mem_ofRule.mpr ⟨hc, hcid⟩)
  · exact fun status => CardsByStatus.ofRule_length_le (ids_get_nodup hn status) rule.id
  · intro status card hm
    by_cases hs : status = .inapplicable
    · rw [hs, hnone] at hm
      cases hm
    · exact (exists_result_of_card hs (CardsByStatus.mem_ofRule.mp hm).1).1
  · exact hnone

end

end CardsView
end AccessReport
