import AccessReport.Unified.Basic
/-!
# Cards

The view of a report: one card for a rule in each status, holding the results of that rule and
status together with the state that the user interface adds to them.

Results:
* `get_modify`, `get_push`: a change to the cards of one status leaves the others alone.
-/
namespace AccessReport

inductive CardStatus where
  | pass
  | fail
  | unknown
  | inapplicable
deriving DecidableEq, Repr

namespace CardStatus

def all : List CardStatus := [.pass, .fail, .unknown, .inapplicable]

def name : CardStatus → String
  | .pass => "pass"
  | .fail => "fail"
  | .unknown => "unknown"
  | .inapplicable => "inapplicable"

def named : List (String × CardStatus) := all.map fun status => (status.name, status)

/-- Only these cards can be expanded and hold results that can be selected (`is_interactive`). -/
def isInteractive : CardStatus → Bool
  | .fail | .unknown => true
  | .pass | .inapplicable => false

end CardStatus

/-- The status of the card that a result goes into. -/
def ResultStatus.toCardStatus : ResultStatus → CardStatus
  | .pass => .pass
  | .fail => .fail
  | .unknown => .unknown

/-- How an element is highlighted on the page. -/
inductive HighlightStatus where
  | visible
  | hidden
  | unavailable
deriving DecidableEq, Repr

namespace HighlightStatus

def all : List HighlightStatus := [.visible, .hidden, .unavailable]

def name : HighlightStatus → String
  | .visible => "visible"
  | .hidden => "hidden"
  | .unavailable => "unavailable"

def named : List (String × HighlightStatus) := all.map fun status => (status.name, status)

end HighlightStatus

/-- A result on a card. -/
structure CardResult where
  result : UnifiedResult
  isSelected : Bool
  highlightStatus : Option HighlightStatus := none
deriving DecidableEq, Repr

/-- Without an entry an element counts as unavailable (`effective_highlight_status`). -/
def CardResult.effectiveHighlight (card : CardResult) : HighlightStatus :=
  card.highlightStatus.getD .unavailable

/-- The card of a rule in one status. -/
structure RuleCard where
  id : String
  status : CardStatus
  nodes : List CardResult
  description : String
  url : String
  guidance : List GuidanceLink
  isExpanded : Bool
deriving DecidableEq, Repr

/-- The state of the user interface, which a report reads and never changes. The highlights are
sorted by uid. -/
structure Selection where
  selectedResultUids : List String := []
  expandedRuleIds : List String := []
  visualHelperEnabled : Bool := false
  highlights : List (String × HighlightStatus) := []
deriving DecidableEq, Repr

/-- The cards of each status. -/
structure CardsByStatus where
  pass : List RuleCard := []
  fail : List RuleCard := []
  inapplicable : List RuleCard := []
  unknown : List RuleCard := []
deriving DecidableEq, Repr

namespace CardsByStatus

def get (cards : CardsByStatus) : CardStatus → List RuleCard
  | .pass => cards.pass
  | .fail => cards.fail
  | .unknown => cards.unknown
  | .inapplicable => cards.inapplicable

/-- The cards with those of one status changed. -/
def modify (cards : CardsByStatus) (status : CardStatus)
    (change : List RuleCard → List RuleCard) : CardsByStatus :=
  match status with
  | .pass => { cards with pass := change cards.pass }
  | .fail => { cards with fail := change cards.fail }
  | .unknown => { cards with unknown := change cards.unknown }
  | .inapplicable => { cards with inapplicable := change cards.inapplicable }

/-- The cards with one more at the end of a status. -/
def push (cards : CardsByStatus) (status : CardStatus) (card : RuleCard) : CardsByStatus :=
  cards.modify status (· ++ [card])

theorem get_modify (cards : CardsByStatus) (status other : CardStatus)
    (change : List RuleCard → List RuleCard) :
    (cards.modify status change).get other
      = if other = status then change (cards.get other) else cards.get other := by
  cases status <;> cases other <;> rfl

theorem modify_modify (cards : CardsByStatus) (status : CardStatus)
    (first second : List RuleCard → List RuleCard) :
    (cards.modify status first).modify status second
      = cards.modify status fun held => second (first held) := by
  cases status <;> rfl

theorem get_push (cards : CardsByStatus) (status other : CardStatus) (card : RuleCard) :
    (cards.push status card).get other
      = if other = status then cards.get other ++ [card] else cards.get other :=
  get_modify cards status other (· ++ [card])

end CardsByStatus

structure CardsView where
  cards : CardsByStatus
  visualHelperEnabled : Bool
  allCardsCollapsed : Bool
deriving DecidableEq, Repr

/-- Totals of rules and of results, at most `2 ^ 32 - 1` each. -/
structure CardCounts where
  passRules : Nat
  failRules : Nat
  unknownRules : Nat
  inapplicableRules : Nat
  failInstances : Nat
  unknownInstances : Nat
deriving DecidableEq, Repr

end AccessReport
