import AccessReport.Cards.Basic
/-!
# Grouping results into cards

Results go, in their order, onto the card of their rule among the cards of their status
(`get_card_view_data`); the card is made when the first of them comes. Where a card stands is kept
in a map under its status and its rule, so that no card is searched for. Results of unknown rules
are left out. Rules that have not been met by then get a card without nodes among the inapplicable
ones, in the order of the rules.

Results:
* `view?_eq_some_iff`: there is a view once all of its three inputs are there.
-/
namespace AccessReport

namespace CardsView

/-- The rule with an id; of several the last one counts. -/
def ruleOf? (rules : List UnifiedRule) (id : String) : Option UnifiedRule :=
  rules.reverse.find? (·.id == id)

/-- A rule's card before it holds results (`card_rule`). -/
def emptyCard (selection : Selection) (status : CardStatus) (rule : UnifiedRule) : RuleCard where
  id := rule.id
  status := status
  nodes := []
  description := rule.description
  url := rule.url
  guidance := rule.guidance
  isExpanded := status.isInteractive && selection.expandedRuleIds.contains rule.id

/-- A result with the state that the user interface has for it. -/
def cardResult (selection : Selection) (status : CardStatus) (result : UnifiedResult) :
    CardResult where
  result := result
  isSelected := status.isInteractive && selection.selectedResultUids.contains result.uid
  highlightStatus := selection.highlights.lookup result.uid

/-- The state of the loop that fills the cards. -/
structure Filling where
  cards : CardsByStatus := {}
  /-- Where the card of a status and a rule stands among the cards of that status. -/
  positions : List ((CardStatus × String) × Nat) := []
  /-- The ids of the rules that have been met. -/
  seen : List String := []

/-- Where the card of a rule stands among those of a status. One that is not there yet is made,
unless the rule is unknown. -/
def place (rules : List UnifiedRule) (selection : Selection) (status : CardStatus)
    (ruleId : String) (filling : Filling) : Option (Nat × Filling) :=
  match filling.positions.lookup (status, ruleId) with
  | some position => some (position, filling)
  | none =>
    (ruleOf? rules ruleId).map fun rule =>
      let position := (filling.cards.get status).length
      (position, { filling with
        cards := filling.cards.push status (emptyCard selection status rule)
        positions := ((status, ruleId), position) :: filling.positions })

/-- The card with one more result. -/
def hold (held : CardResult) (card : RuleCard) : RuleCard :=
  { card with nodes := card.nodes ++ [held] }

/-- One turn of the loop over the results. -/
def addResult (rules : List UnifiedRule) (selection : Selection) (filling : Filling)
    (result : UnifiedResult) : Filling :=
  let status := result.status.toCardStatus
  match place rules selection status result.ruleId filling with
  | none => filling
  | some (position, filling) =>
    { filling with
      seen := filling.seen.insert result.ruleId
      cards := filling.cards.modify status fun cards =>
        cards.modify position (hold (cardResult selection status result)) }

/-- One turn of the loop over the rules that follows. -/
def addUnmet (selection : Selection) (filling : Filling) (rule : UnifiedRule) : Filling :=
  if filling.seen.contains rule.id then filling
  else
    { filling with
      seen := rule.id :: filling.seen
      cards := filling.cards.push .inapplicable (emptyCard selection .inapplicable rule) }

/-- All cards of a report. -/
def cardsOf (rules : List UnifiedRule) (results : List UnifiedResult) (selection : Selection) :
    CardsByStatus :=
  (rules.foldl (addUnmet selection) (results.foldl (addResult rules selection) {})).cards

/-- The view of a report. -/
def of (rules : List UnifiedRule) (results : List UnifiedResult) (selection : Selection) :
    CardsView where
  cards := cardsOf rules results selection
  visualHelperEnabled := selection.visualHelperEnabled
  allCardsCollapsed := selection.expandedRuleIds.isEmpty

/-- The view, once all of its inputs are there (`get_card_view_data`). -/
def view? (rules : Option (List UnifiedRule)) (results : Option (List UnifiedResult))
    (selection : Option Selection) : Option CardsView := do
  pure (of (← rules) (← results) (← selection))

theorem view?_eq_some_iff {rules : Option (List UnifiedRule)}
    {results : Option (List UnifiedResult)} {selection : Option Selection} {view : CardsView} :
    view? rules results selection = some view ↔
      ∃ known taken state, rules = some known ∧ results = some taken ∧ selection = some state ∧
        of known taken state = view := by
  cases rules <;> cases results <;> cases selection <;> simp [view?]

end CardsView
end AccessReport
