import AccessReport.Cards.Basic
import AccessReport.Unified.Format
/-!
# The format of cards

A card result is written as one object, with the members of its result beside its own. It is read
in the same way: the members that are not its own are held back, and all of them have to be
usable, also those that nobody asks for. A name in such a held-back part may have an empty object
as its payload.
-/
namespace AccessReport

open Document Json

def CardStatus.ofDocument? : Document → Option CardStatus :=
  choice? nullPayload CardStatus.named

def HighlightStatus.ofDocument? : Document → Option HighlightStatus :=
  choice? nullPayload HighlightStatus.named

/-! ## Results on cards -/

/-- The empty payloads of a part that was held back. -/
def heldPayload : Payload
  | .null => true
  | .object [] => true
  | _ => false

/-- The names of the fields that a card result adds to its result. -/
def CardResult.ownNames : List String := ["isSelected", "highlightStatus"]

def CardResult.ofDocument? : Document → Option CardResult
  | .object members => do
    let (own, held) := members.partition fun member => ownNames.contains member.1
    let fields ← objectFields? ownNames own
    let _ ← held.mapM fun member => member.2.value?
    let resultFields ← objectFields? UnifiedResult.fieldNames held
    pure {
      result := ← UnifiedResult.ofFields? heldPayload resultFields
      isSelected := ← fields.required "isSelected" flag?
      highlightStatus := ← fields.optional "highlightStatus" HighlightStatus.ofDocument? }
  | _ => none

def CardResult.toJson (card : CardResult) : Json :=
  .object (
    card.result.members
    ++ member "isSelected" (.bool card.isSelected)
    ++ memberIfSome "highlightStatus" (fun status => .string status.name) card.highlightStatus)

/-! ## Cards -/

def RuleCard.ofDocument? (document : Document) : Option RuleCard := do
  let fields ← document.record?
    ["id", "status", "nodes", "description", "url", "guidance", "isExpanded"]
  pure {
    id := ← fields.required "id" text?
    status := ← fields.required "status" CardStatus.ofDocument?
    nodes := ← fields.required "nodes" (list? CardResult.ofDocument?)
    description := ← fields.required "description" text?
    url := ← fields.required "url" text?
    guidance := ← fields.required "guidance" (list? GuidanceLink.ofDocument?)
    isExpanded := ← fields.required "isExpanded" flag? }

def RuleCard.toJson (card : RuleCard) : Json :=
  .object [
    ("id", .string card.id), ("status", .string card.status.name),
    ("nodes", .array (card.nodes.map CardResult.toJson)),
    ("description", .string card.description), ("url", .string card.url),
    ("guidance", .array (card.guidance.map GuidanceLink.toJson)),
    ("isExpanded", .bool card.isExpanded)]

def CardsByStatus.ofDocument? (document : Document) : Option CardsByStatus := do
  let fields ← document.record? ["pass", "fail", "inapplicable", "unknown"]
  let cards? := list? RuleCard.ofDocument?
  pure {
    pass := ← fields.required "pass" cards?
    fail := ← fields.required "fail" cards?
    inapplicable := ← fields.required "inapplicable" cards?
    unknown := ← fields.required "unknown" cards? }

def CardsByStatus.toJson (cards : CardsByStatus) : Json :=
  .object [
    ("pass", .array (cards.pass.map RuleCard.toJson)),
    ("fail", .array (cards.fail.map RuleCard.toJson)),
    ("inapplicable", .array (cards.inapplicable.map RuleCard.toJson)),
    ("unknown", .array (cards.unknown.map RuleCard.toJson))]

def CardsView.ofDocument? (document : Document) : Option CardsView := do
  let fields ← document.record? ["cards", "visualHelperEnabled", "allCardsCollapsed"]
  pure {
    cards := ← fields.required "cards" CardsByStatus.ofDocument?
    visualHelperEnabled := ← fields.required "visualHelperEnabled" flag?
    allCardsCollapsed := ← fields.required "allCardsCollapsed" flag? }

def CardsView.toJson (view : CardsView) : Json :=
  .object [
    ("cards", view.cards.toJson), ("visualHelperEnabled", .bool view.visualHelperEnabled),
    ("allCardsCollapsed", .bool view.allCardsCollapsed)]

/-! ## Selections -/

/-- The entry put in its place among entries sorted by uid; it takes the place of an entry for the
same uid. -/
def putHighlight (uid : String) (status : HighlightStatus) :
    List (String × HighlightStatus) → List (String × HighlightStatus)
  | [] => [(uid, status)]
  | (other, held) :: rest =>
    if uid = other then (uid, status) :: rest
    else if uid < other then (uid, status) :: (other, held) :: rest
    else (other, held) :: putHighlight uid status rest

/-- The entries sorted by uid; of several for one uid the last one stays. -/
def sortHighlights (entries : List (String × HighlightStatus)) :
    List (String × HighlightStatus) :=
  entries.foldl (fun sorted entry => putHighlight entry.1 entry.2 sorted) []

def highlights? : Document → Option (List (String × HighlightStatus))
  | .object members => do
    let entries ← members.mapM fun member => do
      let status ← HighlightStatus.ofDocument? member.2
      pure (member.1, status)
    pure (sortHighlights entries)
  | _ => none

def Selection.ofDocument? (document : Document) : Option Selection := do
  let fields ← document.record?
    ["selectedResultUids", "expandedRuleIds", "visualHelperEnabled", "resultsHighlightStatus"]
  pure {
    selectedResultUids := ← fields.defaulted "selectedResultUids" (list? text?) []
    expandedRuleIds := ← fields.defaulted "expandedRuleIds" (list? text?) []
    visualHelperEnabled := ← fields.defaulted "visualHelperEnabled" flag? false
    highlights := ← fields.defaulted "resultsHighlightStatus" highlights? [] }

def Selection.toJson (selection : Selection) : Json :=
  .object [
    ("selectedResultUids", strings selection.selectedResultUids),
    ("expandedRuleIds", strings selection.expandedRuleIds),
    ("visualHelperEnabled", .bool selection.visualHelperEnabled),
    ("resultsHighlightStatus",
      .object (selection.highlights.map fun entry => (entry.1, .string entry.2.name)))]

/-! ## Counts -/

/-- Counts are whole numbers of 32 bits. -/
def count? : Document → Option Nat
  | .number (.integer n) => if 0 ≤ n && n < 0x100000000 then some n.toNat else none
  | _ => none

def CardCounts.ofDocument? (document : Document) : Option CardCounts := do
  let fields ← document.record?
    ["pass_rules", "fail_rules", "unknown_rules", "inapplicable_rules", "fail_instances",
      "unknown_instances"]
  pure {
    passRules := ← fields.required "pass_rules" count?
    failRules := ← fields.required "fail_rules" count?
    unknownRules := ← fields.required "unknown_rules" count?
    inapplicableRules := ← fields.required "inapplicable_rules" count?
    failInstances := ← fields.required "fail_instances" count?
    unknownInstances := ← fields.required "unknown_instances" count? }

def CardCounts.toJson (counts : CardCounts) : Json :=
  .object [
    ("pass_rules", Json.integer counts.passRules), ("fail_rules", Json.integer counts.failRules),
    ("unknown_rules", Json.integer counts.unknownRules),
    ("inapplicable_rules", Json.integer counts.inapplicableRules),
    ("fail_instances", Json.integer counts.failInstances),
    ("unknown_instances", Json.integer counts.unknownInstances)]

end AccessReport
