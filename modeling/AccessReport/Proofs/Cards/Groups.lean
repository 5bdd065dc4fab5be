import AccessReport.Cards.View
import AccessReport.Proofs.Grouping
import Mathlib.Data.List.Basic
/-!
# Cards as groups of results

The loop that puts results onto cards is compared with what the cards should be, read off the
results without a loop: in each status one card for every known rule that has results there, in the
order of their first ones, holding all of them in order.

* `ResultStatus.shownAs_iff`: the cards that a result is shown among, case by case.
* `filled_addResult`, `filled_foldl`: the comparison holds after each result, and so after all of
  them. With it the map of positions tells where the cards stand, and the rules that have been met
  are the known ones that have results.
* `get_cardsOf`: the cards of a status that results can have.
* `get_cardsOf_inapplicable`: the cards of the rules that no result is about.
-/
namespace AccessReport

/-- The cards that a result is shown among. -/
inductive ResultStatus.ShownAs : ResultStatus → CardStatus → Prop where
  | pass : ShownAs .pass .pass
  | fail : ShownAs .fail .fail
  | unknown : ShownAs .unknown .unknown

theorem ResultStatus.shownAs_iff {result : ResultStatus} {status : CardStatus} :
    result.ShownAs status ↔ result.toCardStatus = status := by
  constructor
  · rintro (_ | _ | _) <;> rfl
  · rintro rfl
    cases result with
    | pass => exact .pass
    | fail => exact .fail
    | unknown => exact .unknown

instance ResultStatus.decidableShownAs (result : ResultStatus) (status : CardStatus) :
    Decidable (result.ShownAs status) :=
  decidable_of_iff _ shownAs_iff.symm

namespace CardsView

/-! ## Results of a status and of a rule -/

/-- The results that go to the cards of a status. -/
def inStatus (results : List UnifiedResult) (status : CardStatus) : List UnifiedResult :=
  results.filter fun result => decide (result.status.toCardStatus = status)

/-- The results that go onto the card of a rule in a status. -/
def onCard (results : List UnifiedResult) (status : CardStatus) (ruleId : String) :
    List UnifiedResult :=
  (inStatus results status).filter fun result => decide (result.ruleId = ruleId)

/-- The rules of the results of a status, in the order of their first results. -/
def ruleIds (results : List UnifiedResult) (status : CardStatus) : List String :=
  ((inStatus results status).map (·.ruleId)).eraseDups

theorem mem_ruleIds {results : List UnifiedResult} {status : CardStatus} {ruleId : String} :
    ruleId ∈ ruleIds results status ↔
      ∃ result ∈ results, result.status.toCardStatus = status ∧ result.ruleId = ruleId := by
  simp only [ruleIds, inStatus, List.mem_eraseDups, List.mem_map, List.mem_filter,
    decide_eq_true_eq, and_assoc]

theorem ruleIds_inapplicable (results : List UnifiedResult) :
    ruleIds results .inapplicable = [] := by
  rw [List.eq_nil_iff_forall_not_mem]
  intro ruleId h
  obtain ⟨result, -, hs, -⟩ := mem_ruleIds.mp h
  cases hr : result.status <;> rw [hr] at hs <;> cases hs

section
variable (rules : List UnifiedRule) (selection : Selection)

/-- The card of a known rule in a status. -/
def cardOf? (results : List UnifiedResult) (status : CardStatus) (ruleId : String) :
    Option RuleCard :=
  (ruleOf? rules ruleId).map fun rule =>
    { emptyCard selection status rule with
      nodes := (onCard results status ruleId).map (cardResult selection status) }

/-- The cards of a status, as they should be. -/
def groups (results : List UnifiedResult) (status : CardStatus) : List RuleCard :=
  (ruleIds results status).filterMap (cardOf? rules selection results status)

/-- The cards are as they should be for the results. -/
def Grouped (results : List UnifiedResult) (cards : CardsByStatus) : Prop :=
  ∀ status, cards.get status = groups rules selection results status

end

/-! ## One more result -/

theorem ruleOf?_id {rules : List UnifiedRule} {ruleId : String} {rule : UnifiedRule}
    (h : ruleOf? rules ruleId = some rule) : rule.id = ruleId := by
  simpa using List.find?_some h

theorem cardOf?_id {rules : List UnifiedRule} {selection : Selection}
    {results : List UnifiedResult} {status : CardStatus} {ruleId : String} {card : RuleCard}
    (h : cardOf? rules selection results status ruleId = some card) : card.id = ruleId := by
  obtain ⟨rule, hr, rfl⟩ := Option.map_eq_some_iff.mp h
  exact ruleOf?_id hr

theorem inStatus_concat (results : List UnifiedResult) (result : UnifiedResult)
    (status : CardStatus) :
    inStatus (results ++ [result]) status
      = if result.status.toCardStatus = status then inStatus results status ++ [result]
        else inStatus results status := by
  rw [inStatus, List.filter_append, List.filter_cons, List.filter_nil]
  by_cases hs : result.status.toCardStatus = status
  · simp only [hs, decide_true, if_true, inStatus]
  · simp only [hs, decide_false, Bool.false_eq_true, if_false, List.append_nil, inStatus]

theorem onCard_concat (results : List UnifiedResult) (result : UnifiedResult)
    (status : CardStatus) (ruleId : String) :
    onCard (results ++ [result]) status ruleId
      = if result.status.toCardStatus = status ∧ result.ruleId = ruleId
        then onCard results status ruleId ++ [result] else onCard results status ruleId := by
  simp only [onCard, inStatus_concat]
  by_cases hs : result.status.toCardStatus = status
  · by_cases hr : result.ruleId = ruleId
    · simp [hs, hr]
    · simp [hs, hr]
  · simp [hs]

theorem ruleIds_concat (results : List UnifiedResult) (result : UnifiedResult)
    (status : CardStatus) :
    ruleIds (results ++ [result]) status
      = if result.status.toCardStatus = status ∧ result.ruleId ∉ ruleIds results status
        then ruleIds results status ++ [result.ruleId] else ruleIds results status := by
  simp only [ruleIds, inStatus_concat]
  by_cases hs : result.status.toCardStatus = status
  · rw [if_pos hs, List.map_append, List.map_singleton, Grouping.eraseDups_concat]
    simp only [List.mem_eraseDups]
    by_cases hm : result.ruleId ∈ (inStatus results status).map (·.ruleId) <;> simp [hs, hm]
  · simp [hs]

section
variable {rules : List UnifiedRule} {selection : Selection} {results : List UnifiedResult}

theorem ids_groups (results : List UnifiedResult) (status : CardStatus) :
    (groups rules selection results status).map (·.id)
      = (ruleIds results status).filter fun ruleId => (ruleOf? rules ruleId).isSome := by
  unfold groups
  induction ruleIds results status with
  | nil => rfl
  | cons ruleId rest ih =>
    rw [List.filterMap_cons, List.filter_cons]
    cases hc : cardOf? rules selection results status ruleId with
    | none =>
      have hr : ruleOf? rules ruleId = none := Option.map_eq_none_iff.mp hc
      simpa [hr] using ih
    | some card =>
      obtain ⟨rule, hr, -⟩ := Option.map_eq_some_iff.mp hc
      simp only [hr, Option.isSome_some, if_true, List.map_cons, ih, cardOf?_id hc]

theorem ids_groups_nodup (results : List UnifiedResult) (status : CardStatus) :
    ((groups rules selection results status).map (·.id)).Nodup := by
  rw [ids_groups]
  exact (Grouping.nodup_eraseDups _).filter _

/-- One more result changes the card of its own rule in its own status only, where it comes behind
the others. -/
theorem cardOf?_concat (results : List UnifiedResult) (result : UnifiedResult)
    (status : CardStatus) (ruleId : String) :
    cardOf? rules selection (results ++ [result]) status ruleId
      = if result.status.toCardStatus = status ∧ result.ruleId = ruleId
        then (cardOf? rules selection results status ruleId).map
          (hold (cardResult selection status result))
        else cardOf? rules selection results status ruleId := by
  simp only [cardOf?, onCard_concat]
  split
  · rw [Option.map_map]
    congr 1
    funext rule
    simp only [Function.comp, hold, List.map_append, List.map_cons, List.map_nil]
  · rfl

/-- A result of an unknown rule, or one that goes elsewhere, leaves the cards of a status alone. -/
theorem groups_concat_other (results : List UnifiedResult) {result : UnifiedResult}
    {status : CardStatus}
    (h : result.status.toCardStatus = status → ruleOf? rules result.ruleId = none) :
    groups rules selection (results ++ [result]) status
      = groups rules selection results status := by
  by_cases hs : result.status.toCardStatus = status
  · have hnew : cardOf? rules selection results status result.ruleId = none := by
      rw [cardOf?, h hs, Option.map_none]
    have hcards : cardOf? rules selection (results ++ [result]) status
        = cardOf? rules selection results status := by
      funext ruleId
      rw [cardOf?_concat]
      split
      · rename_i hr
        rw [← hr.2, hnew, Option.map_none]
      · rfl
    simp only [groups, hcards, ruleIds_concat]
    split
    · rw [List.filterMap_append, List.filterMap_cons, hnew, List.filterMap_nil, List.append_nil]
    · rfl
  · have hcards : cardOf? rules selection (results ++ [result]) status
        = cardOf? rules selection results status := by
      funext ruleId
      rw [cardOf?_concat, if_neg fun hr => hs hr.1]
    simp only [groups, hcards, ruleIds_concat, hs, false_and, if_false]

theorem id_mem_groups {status : CardStatus} {ruleId : String} {rule : UnifiedRule}
    (h : ruleOf? rules ruleId = some rule) :
    ruleId ∈ (groups rules selection results status).map (·.id) ↔
      ruleId ∈ ruleIds results status := by
  rw [ids_groups, List.mem_filter, h, Option.isSome_some]
  exact and_iff_left rfl

/-- A result of a known rule that has a card in its status goes onto it. -/
theorem groups_concat_of_mem {result : UnifiedResult} {status : CardStatus}
    (hs : result.status.toCardStatus = status) (hm : result.ruleId ∈ ruleIds results status) :
    groups rules selection (results ++ [result]) status
      = (groups rules selection results status).map fun card =>
          if card.id = result.ruleId then hold (cardResult selection status result) card
          else card := by
  simp only [groups, ruleIds_concat, hm, not_true_eq_false, and_false, if_false]
  rw [List.map_filterMap]
  congr 1
  funext ruleId
  rw [cardOf?_concat]
  cases hc : cardOf? rules selection results status ruleId with
  | none => simp only [Option.map_none, ite_self]
  | some card =>
    have hcid : card.id = ruleId := cardOf?_id hc
    simp only [Option.map_some, hs, true_and, hcid, eq_comm (a := ruleId)]
    split <;> rfl

/-- A result of a known rule that has no card in its status is the first one on a new card. -/
theorem groups_concat_of_not_mem {result : UnifiedResult} {rule : UnifiedRule}
    {status : CardStatus} (hs : result.status.toCardStatus = status)
    (h : ruleOf? rules result.ruleId = some rule) (hm : result.ruleId ∉ ruleIds results status) :
    groups rules selection (results ++ [result]) status
      = groups rules selection results status
        ++ [hold (cardResult selection status result) (emptyCard selection status rule)] := by
  have hnone : onCard results status result.ruleId = [] := by
    rw [List.eq_nil_iff_forall_not_mem]
    intro other ho
    simp only [onCard, inStatus, List.mem_filter, decide_eq_true_eq] at ho
    exact hm (mem_ruleIds.mpr ⟨other, ho.1.1, ho.1.2, ho.2⟩)
  simp only [groups, ruleIds_concat, hs, hm, not_false_eq_true, and_self, if_true]
  rw [List.filterMap_append]
  congr 1
  · -- No card that was there belongs to the rule of the new result.
    refine List.filterMap_congr fun ruleId hr => ?_
    have hne : result.ruleId ≠ ruleId := fun he => hm (he ▸ hr)
    rw [cardOf?_concat, if_neg fun hc => hne hc.2]
  · rw [List.filterMap_cons, cardOf?_concat, if_pos ⟨hs, rfl⟩, cardOf?, h, hnone]
    rfl

end

/-! ## The loop over the results -/

/-- The map of positions tells where the cards of each rule stand. -/
def Filling.Located (filling : Filling) : Prop :=
  ∀ status ruleId position, filling.positions.lookup (status, ruleId) = some position ↔
    ((filling.cards.get status).map (·.id))[position]? = some ruleId

/-- What the loop has reached after some results. -/
structure Filled (rules : List UnifiedRule) (selection : Selection)
    (results : List UnifiedResult) (filling : Filling) : Prop where
  cards : Grouped rules selection results filling.cards
  located : filling.Located
  seen : ∀ ruleId, ruleId ∈ filling.seen ↔
    ruleId ∈ results.map (·.ruleId) ∧ (ruleOf? rules ruleId).isSome = true

section
variable {rules : List UnifiedRule} {selection : Selection} {results : List UnifiedResult}
  {filling : Filling} {status : CardStatus} {ruleId : String}

theorem lookup_eq_none_iff (h : filling.Located) :
    filling.positions.lookup (status, ruleId) = none ↔
      ruleId ∉ (filling.cards.get status).map (·.id) := by
  rw [List.mem_iff_getElem?, not_exists, Option.eq_none_iff_forall_ne_some]
  exact forall_congr' fun position => not_congr (h status ruleId position)

/-- A rule that has a card in a status is placed there. -/
theorem place_of_mem (rules : List UnifiedRule) (selection : Selection) (h : filling.Located)
    (hm : ruleId ∈ (filling.cards.get status).map (·.id)) :
    ∃ position, place rules selection status ruleId filling = some (position, filling) ∧
      ((filling.cards.get status).map (·.id))[position]? = some ruleId := by
  obtain ⟨position, hposition⟩ := List.mem_iff_getElem?.mp hm
  refine ⟨position, ?_, hposition⟩
  rw [place, (h status ruleId position).mpr hposition]

/-- One that has none is placed behind the cards that are there, if it is known. -/
theorem place_of_not_mem (h : filling.Located)
    (hm : ruleId ∉ (filling.cards.get status).map (·.id)) :
    place rules selection status ruleId filling
      = (ruleOf? rules ruleId).map fun rule =>
          ((filling.cards.get status).length, { filling with
            cards := filling.cards.push status (emptyCard selection status rule)
            positions := ((status, ruleId), (filling.cards.get status).length)
              :: filling.positions }) := by
  rw [place, (lookup_eq_none_iff h).mpr hm]

theorem located_push (h : filling.Located)
    (hm : ruleId ∉ (filling.cards.get status).map (·.id)) (card : RuleCard)
    (hc : card.id = ruleId) :
    Filling.Located { filling with
      cards := filling.cards.push status card
      positions := ((status, ruleId), (filling.cards.get status).length)
        :: filling.positions } := by
  intro other otherId position
  have hlookup : (((status, ruleId), (filling.cards.get status).length) :: filling.positions).lookup
      (other, otherId)
        = if other = status ∧ otherId = ruleId then some (filling.cards.get status).length
          else filling.positions.lookup (other, otherId) := by
    rw [List.lookup_cons]
    by_cases hk : other = status ∧ otherId = ruleId
    · simp [hk]
    · have hne : ((other, otherId) == (status, ruleId)) = false := by simpa using hk
      rw [hne, if_neg hk]
  simp only [hlookup, CardsByStatus.get_push]
  by_cases hs : other = status
  · subst hs
    simp only [true_and, if_true, List.map_append, List.map_singleton, hc]
    rw [Grouping.getElem?_concat_eq_some_iff, List.length_map]
    by_cases hr : otherId = ruleId
    · subst hr
      have hnone : ((filling.cards.get other).map (·.id))[position]? ≠ some otherId :=
        fun hget => hm (List.mem_of_getElem? hget)
      simp only [hnone, if_true, Option.some_inj, false_or, and_true]
      exact eq_comm
    · have hne : ruleId ≠ otherId := fun he => hr he.symm
      simp [hr, hne, h other otherId position]
  · simp only [hs, false_and, if_false]
    exact h other otherId position

theorem ids_modify_hold (held : CardResult) (position : Nat) (cards : List RuleCard) :
    (cards.modify position (hold held)).map (·.id) = cards.map (·.id) := by
  refine List.ext_getElem? fun k => ?_
  rw [List.getElem?_map, List.getElem?_modify, List.getElem?_map]
  cases cards[k]? with
  | none => rfl
  | some card =>
    simp only [Option.map_some, Functor.map]
    split <;> rfl

/-- A result on a card changes nothing about where the cards stand. -/
theorem located_hold (h : filling.Located) (seen : List String) (held : CardResult)
    (position : Nat) :
    Filling.Located { filling with
      seen
      cards := filling.cards.modify status fun cards => cards.modify position (hold held) } := by
  intro other otherId index
  rw [h other otherId index]
  simp only [CardsByStatus.get_modify]
  split
  · rw [ids_modify_hold]
  · rfl

/-- The card at the place of a rule is the one card of that rule. -/
theorem modify_eq_map {cards : List RuleCard} (hn : (cards.map (·.id)).Nodup) {position : Nat}
    (hp : (cards.map (·.id))[position]? = some ruleId) (change : RuleCard → RuleCard) :
    cards.modify position change
      = cards.map fun card => if card.id = ruleId then change card else card := by
  refine List.ext_getElem? fun k => ?_
  rw [List.getElem?_modify, List.getElem?_map]
  cases hk : cards[k]? with
  | none => rfl
  | some card =>
    have hid : (cards.map (·.id))[k]? = some card.id := by
      rw [List.getElem?_map, hk]
      rfl
    have hlt : position < (cards.map (·.id)).length := (List.getElem?_eq_some_iff.mp hp).1
    have hsame : position = k ↔ card.id = ruleId := by
      rw [← List.getElem?_inj hlt hn, hp, hid, Option.some_inj, eq_comm]
    simp only [Functor.map, Option.map_some, hsame]

/-! ## One turn, and all of them -/

theorem mem_ids_iff (h : Filled rules selection results filling) {rule : UnifiedRule}
    (hr : ruleOf? rules ruleId = some rule) :
    ruleId ∈ (filling.cards.get status).map (·.id) ↔ ruleId ∈ ruleIds results status := by
  rw [h.cards status, id_mem_groups hr]

/-- A result of an unknown rule is left out. -/
theorem filled_addResult_of_unknown (h : Filled rules selection results filling)
    {result : UnifiedResult} (hr : ruleOf? rules result.ruleId = none) :
    Filled rules selection (results ++ [result]) (addResult rules selection filling result) := by
  have hnone : result.ruleId
      ∉ (filling.cards.get result.status.toCardStatus).map (·.id) := by
    rw [h.cards, ids_groups, List.mem_filter, hr]
    simp
  rw [addResult, place_of_not_mem h.located hnone, hr, Option.map_none]
  constructor
  · exact fun status => by rw [h.cards status, groups_concat_other results fun _ => hr]
  · exact h.located
  · intro ruleId
    rw [h.seen, List.map_append, List.mem_append, List.map_singleton, List.mem_singleton]
    by_cases he : ruleId = result.ruleId <;> simp [he, hr]

theorem seen_concat (h : Filled rules selection results filling) {result : UnifiedResult}
    {rule : UnifiedRule} (hr : ruleOf? rules result.ruleId = some rule) :
    ruleId ∈ filling.seen.insert result.ruleId ↔
      ruleId ∈ (results ++ [result]).map (·.ruleId) ∧ (ruleOf? rules ruleId).isSome = true := by
  rw [List.mem_insert_iff, h.seen, List.map_append, List.map_singleton, List.mem_append,
    List.mem_singleton]
  by_cases he : ruleId = result.ruleId
  · subst he
    simp [hr]
  · simp [he]

/-- The comparison of one status decides about all of them. -/
theorem grouped_modify (h : Grouped rules selection results filling.cards)
    {result : UnifiedResult} {change : List RuleCard → List RuleCard}
    (hc : change (filling.cards.get result.status.toCardStatus)
      = groups rules selection (results ++ [result]) result.status.toCardStatus) :
    Grouped rules selection (results ++ [result])
      (filling.cards.modify result.status.toCardStatus change) := by
  intro other
  rw [CardsByStatus.get_modify]
  split
  · rename_i hs
    rw [hs, hc]
  · rename_i hs
    rw [h other, groups_concat_other results fun he => absurd he.symm hs]

/-- A result of a rule that has a card in its status: the map tells where. -/
theorem filled_addResult_of_mem (h : Filled rules selection results filling)
    {result : UnifiedResult} {rule : UnifiedRule} (hr : ruleOf? rules result.ruleId = some rule)
    (hm : result.ruleId ∈ ruleIds results result.status.toCardStatus) :
    Filled rules selection (results ++ [result]) (addResult rules selection filling result) := by
  let status := result.status.toCardStatus
  have hcard : result.ruleId ∈ (filling.cards.get status).map (·.id) := (mem_ids_iff h hr).mpr hm
  obtain ⟨position, hplace, hposition⟩ := place_of_mem rules selection h.located hcard
  have hn : ((filling.cards.get status).map (·.id)).Nodup := by
    rw [h.cards]
    exact ids_groups_nodup results status
  have hstep : (filling.cards.get status).modify position (hold (cardResult selection status
      result)) = groups rules selection (results ++ [result]) status := by
    rw [modify_eq_map hn hposition, h.cards, groups_concat_of_mem rfl hm]
  rw [addResult, hplace]
  exact ⟨grouped_modify h.cards hstep, located_hold h.located _ _ _, fun _ => seen_concat h hr⟩

/-- A result of a known rule that has none: one is made, behind the others of the status. -/
theorem filled_addResult_of_not_mem (h : Filled rules selection results filling)
    {result : UnifiedResult} {rule : UnifiedRule} (hr : ruleOf? rules result.ruleId = some rule)
    (hm : result.ruleId ∉ ruleIds results result.status.toCardStatus) :
    Filled rules selection (results ++ [result]) (addResult rules selection filling result) := by
  let status := result.status.toCardStatus
  have hcard : result.ruleId ∉ (filling.cards.get status).map (·.id) :=
    mt (mem_ids_iff h hr).mp hm
  have hlocated := located_push h.located hcard (emptyCard selection status rule) (ruleOf?_id hr)
  have hstep : (filling.cards.get status ++ [emptyCard selection status rule]).modify
      (filling.cards.get status).length (hold (cardResult selection status result))
        = groups rules selection (results ++ [result]) status := by
    rw [Grouping.modify_concat_length, h.cards, groups_concat_of_not_mem rfl hr hm]
  have hcards : Grouped rules selection (results ++ [result])
      ((filling.cards.push status (emptyCard selection status rule)).modify status fun cards =>
        cards.modify (filling.cards.get status).length
          (hold (cardResult selection status result))) := by
    rw [CardsByStatus.push, CardsByStatus.modify_modify]
    refine grouped_modify h.cards ?_
    exact hstep
  rw [addResult, place_of_not_mem h.located hcard, hr, Option.map_some]
  exact ⟨hcards, located_hold hlocated _ _ _, fun _ => seen_concat h hr⟩

/-- One turn of the loop keeps the comparison. -/
theorem filled_addResult (h : Filled rules selection results filling) (result : UnifiedResult) :
    Filled rules selection (results ++ [result]) (addResult rules selection filling result) := by
  cases hr : ruleOf? rules result.ruleId with
  | none => exact filled_addResult_of_unknown h hr
  | some rule =>
    by_cases hm : result.ruleId ∈ ruleIds results result.status.toCardStatus
    · exact filled_addResult_of_mem h hr hm
    · exact filled_addResult_of_not_mem h hr hm

theorem filled_foldl (more : List UnifiedResult) (h : Filled rules selection results filling) :
    Filled rules selection (results ++ more) (more.foldl (addResult rules selection) filling) := by
  induction more generalizing results filling with
  | nil => simpa using h
  | cons result more ih =>
    rw [List.foldl_cons]
    have step := ih (filled_addResult h result)
    rwa [List.append_assoc] at step

theorem filled_start (rules : List UnifiedRule) (selection : Selection) :
    Filled rules selection [] {} where
  cards status := by cases status <;> rfl
  located status ruleId position := by cases status <;> simp [CardsByStatus.get]
  seen ruleId := by simp

theorem filled_results (rules : List UnifiedRule) (results : List UnifiedResult)
    (selection : Selection) :
    Filled rules selection results (results.foldl (addResult rules selection) {}) := by
  have hall := filled_foldl results (filled_start rules selection)
  rwa [List.nil_append] at hall

/-! ## The loop over the rules -/

/-- The loop over the rules touches the inapplicable cards only. -/
theorem get_foldl_addUnmet (rules : List UnifiedRule) (filling : Filling)
    (h : status ≠ .inapplicable) :
    (rules.foldl (addUnmet selection) filling).cards.get status = filling.cards.get status := by
  induction rules generalizing filling with
  | nil => rfl
  | cons rule rules ih =>
    rw [List.foldl_cons, ih, addUnmet]
    split
    · rfl
    · rw [CardsByStatus.get_push, if_neg h]

/-- It gives an inapplicable card to each rule that has not been met. -/
theorem get_foldl_addUnmet_inapplicable {rules : List UnifiedRule}
    (hn : (rules.map (·.id)).Nodup) (filling : Filling) :
    (rules.foldl (addUnmet selection) filling).cards.get .inapplicable
      = filling.cards.get .inapplicable
        ++ (rules.filter fun rule => decide (rule.id ∉ filling.seen)).map
          (emptyCard selection .inapplicable) := by
  induction rules generalizing filling with
  | nil => simp
  | cons rule rules ih =>
    rw [List.map_cons, List.nodup_cons] at hn
    rw [List.foldl_cons, ih hn.2, addUnmet, List.filter_cons]
    by_cases hs : rule.id ∈ filling.seen
    · simp [hs]
    · have hrest : (rules.filter fun other => decide (other.id ∉ rule.id :: filling.seen))
          = rules.filter fun other => decide (other.id ∉ filling.seen) := by
        refine List.filter_congr fun other ho => ?_
        have hne : other.id ≠ rule.id := fun he => hn.1 (he ▸ List.mem_map_of_mem ho)
        simp [hne]
      simp only [List.contains_eq_mem, hs, hrest, decide_false, Bool.false_eq_true, if_false,
        not_false_eq_true, decide_true, if_true, CardsByStatus.get_push, List.map_cons,
        List.append_assoc, List.singleton_append]

end

/-- The cards of a status that results can have. -/
theorem get_cardsOf (rules : List UnifiedRule) (results : List UnifiedResult)
    (selection : Selection) {status : CardStatus} (h : status ≠ .inapplicable) :
    (cardsOf rules results selection).get status = groups rules selection results status := by
  rw [cardsOf, get_foldl_addUnmet rules _ h]
  exact (filled_results rules results selection).cards status

theorem ruleOf?_isSome {rules : List UnifiedRule} {ruleId : String} :
    (ruleOf? rules ruleId).isSome ↔ ruleId ∈ rules.map (·.id) := by
  simp [ruleOf?, List.find?_isSome]

theorem get_cardsOf_inapplicable {rules : List UnifiedRule} (hn : (rules.map (·.id)).Nodup)
    (results : List UnifiedResult) (selection : Selection) :
    (cardsOf rules results selection).get .inapplicable
      = (rules.filter fun rule => decide (rule.id ∉ results.map (·.ruleId))).map
          (emptyCard selection .inapplicable) := by
  have hfilled := filled_results rules results selection
  rw [cardsOf, get_foldl_addUnmet_inapplicable hn, hfilled.cards, groups, ruleIds_inapplicable,
    List.filterMap_nil, List.nil_append]
  congr 1
  refine List.filter_congr fun rule hr => ?_
  have hknown := ruleOf?_isSome.mpr (List.mem_map_of_mem (f := (·.id)) hr)
  simp only [hfilled.seen, hknown, and_true]

end CardsView
end AccessReport
