import AccessReport.Cards.Basic
/-!
# Counting cards

Totals of the rules and of the results on their cards, for each status that a report shows. Counts
stop at `2 ^ 32 - 1`.
-/
namespace AccessReport.CardCounts

def greatest : Nat := 0xFFFFFFFF

/-- A number of 32 bits, which stays at the greatest one (`saturating_u32`). -/
def capped (n : Nat) : Nat := min n greatest

/-- The number of results on the cards. -/
def instances (cards : List RuleCard) : Nat :=
  (cards.flatMap (·.nodes)).length

/-- The totals of a view (`card_counts`). -/
def ofView (view : CardsView) : CardCounts where
  passRules := capped (view.cards.get .pass).length
  failRules := capped (view.cards.get .fail).length
  unknownRules := capped (view.cards.get .unknown).length
  inapplicableRules := capped (view.cards.get .inapplicable).length
  failInstances := capped (instances (view.cards.get .fail))
  unknownInstances := capped (instances (view.cards.get .unknown))

end AccessReport.CardCounts
