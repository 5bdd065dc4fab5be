import AccessReport.Cards.Format
import AccessReport.Proofs.Unified.RoundTrip
/-!
# Written cards

A card result shares one object with its result, and its reader has to tell the members of both
apart: the names of the two sets differ, so each part gets exactly what was written for it. The
highlights of a selection are written as an object, which keeps them sorted.

* `CardResult.ofDocument?_toJson`: a card result from the shared object.
* `CardsView.ofDocument?_toJson`, `CardsView.exact_toJson`: a whole view.
* `Selection.ofDocument?_toJson`, `Selection.exact_toJson`: a selection with sorted highlights.
-/
namespace AccessReport

open Document Json Fields

theorem CardStatus.ofDocument?_name (status : CardStatus) :
    ofDocument? (ofJson (.string status.name)) = some status := by
  cases status <;> rfl

theorem HighlightStatus.ofDocument?_name (status : HighlightStatus) :
    ofDocument? (ofJson (.string status.name)) = some status := by
  cases status <;> rfl

/-! ## Results on cards -/

namespace CardResult

/-- The members that a card result adds to those of its result. -/
def ownMembers (card : CardResult) : List (String × Json) :=
  member "isSelected" (.bool card.isSelected)
    ++ memberIfSome "highlightStatus" (fun status => .string status.name) card.highlightStatus

theorem toJson_eq (card : CardResult) :
    card.toJson = .object (card.result.members ++ card.ownMembers) := by
  rw [toJson, ownMembers, List.append_assoc]

theorem listed_ownMembers (card : CardResult) : Listed ownNames card.ownMembers :=
  (Listed.member ..).append (.ifSome ..)

theorem partition_written (card : CardResult) :
    (written (card.result.members ++ card.ownMembers)).given.partition
        (fun member => ownNames.contains member.1)
      = ((written card.ownMembers).given, (written card.result.members).given) := by
  have hown : ∀ member ∈ (written card.ownMembers).given,
      ownNames.contains member.1 = true := by
    intro member hm
    rw [List.contains_iff_mem]
    exact (card.listed_ownMembers.map ofJson).subset (List.mem_map_of_mem hm)
  have hheld : ∀ member ∈ (written card.result.members).given,
      ownNames.contains member.1 = false := by
    intro member hm
    have hname : member.1 ∈ UnifiedResult.fieldNames :=
      (card.result.listed_members.map ofJson).subset (List.mem_map_of_mem hm)
    revert hname
    exact (by decide : ∀ name ∈ UnifiedResult.fieldNames, ownNames.contains name = false) member.1
  have hsplit : (written (card.result.members ++ card.ownMembers)).given
      = (written card.result.members).given ++ (written card.ownMembers).given := List.map_append
  rw [hsplit, List.partition_eq_filter_filter, List.filter_append, List.filter_append,
    List.filter_eq_self.mpr hown, List.filter_eq_nil_iff.mpr (by simpa using hheld),
    List.filter_eq_self.mpr (by simpa using hheld),
    List.filter_eq_nil_iff.mpr (by simpa using hown), List.nil_append, List.append_nil]

theorem ofDocument?_toJson (card : CardResult) :
    ofDocument? (ofJson card.toJson) = some card := by
  obtain ⟨values, hvalues⟩ := exists_writtenValues card.result.members
  have hown : objectFields? ownNames (written card.ownMembers).given
      = some (written card.ownMembers) :=
    (card.listed_ownMembers.map ofJson).record? (by decide) (List.Subset.refl _)
  have hresult : objectFields? UnifiedResult.fieldNames (written card.result.members).given
      = some (written card.result.members) :=
    (card.result.listed_members.map ofJson).record? (by decide) (List.Subset.refl _)
  have hhighlight : readOr none (option? HighlightStatus.ofDocument?)
      (card.highlightStatus.map fun status => .string status.name) = some card.highlightStatus :=
    readOr_map (by simp [ofJson]) fun status _ => status.ofDocument?_name
  have hshape : ofJson card.toJson
      = .object (written (card.result.members ++ card.ownMembers)).given := by
    rw [toJson_eq, ofJson_object, written]
  rw [hshape, ofDocument?, card.partition_written]
  simp only [hvalues, hown, hresult]
  simp [card.result.ofFields?_members heldPayload, ownMembers, List.lookup_append, hhighlight]

theorem exact_toJson (card : CardResult) : Exact 4 card.toJson := by
  rw [toJson_eq, ownMembers]
  refine .object ?_
  simp only [List.forall_mem_append, forall_mem_member, forall_mem_memberIfSome]
  exact ⟨card.result.exact_members, .bool .., fun _ _ => .string ..⟩

end CardResult

/-! ## Cards -/

namespace RuleCard

theorem ofDocument?_toJson (card : RuleCard) : ofDocument? (ofJson card.toJson) = some card := by
  have hlisted : Listed
      ["id", "status", "nodes", "description", "url", "guidance", "isExpanded"]
      [("id", Json.string card.id), ("status", .string card.status.name),
        ("nodes", .array (card.nodes.map CardResult.toJson)),
        ("description", .string card.description), ("url", .string card.url),
        ("guidance", .array (card.guidance.map GuidanceLink.toJson)),
        ("isExpanded", .bool card.isExpanded)] := .refl _
  have hnodes : list? CardResult.ofDocument?
      (ofJson (.array (card.nodes.map CardResult.toJson))) = some card.nodes :=
    list?_written fun node _ => node.ofDocument?_toJson
  rw [ofDocument?, toJson, record?_written hlisted (by decide) (by decide)]
  simp [Grouping.lookup_cons_eq, card.status.ofDocument?_name, hnodes,
    GuidanceLink.list?_written_links]

theorem exact_toJson (card : RuleCard) : Exact 6 card.toJson := by
  have hnodes : Exact 5 (.array (card.nodes.map CardResult.toJson)) :=
    exact_array fun node _ => node.exact_toJson
  have hguidance := GuidanceLink.exact_links card.guidance 1
  exact .object (by simp [Exact.string, Exact.bool, hnodes, hguidance])

theorem list?_written_cards (cards : List RuleCard) :
    list? ofDocument? (ofJson (.array (cards.map toJson))) = some cards :=
  list?_written fun card _ => card.ofDocument?_toJson

theorem exact_cards (cards : List RuleCard) : Exact 7 (.array (cards.map toJson)) :=
  exact_array fun card _ => card.exact_toJson

end RuleCard

theorem CardsByStatus.ofDocument?_toJson (cards : CardsByStatus) :
    ofDocument? (ofJson cards.toJson) = some cards := by
  have hlisted : Listed ["pass", "fail", "inapplicable", "unknown"]
      [("pass", Json.array (cards.pass.map RuleCard.toJson)),
        ("fail", .array (cards.fail.map RuleCard.toJson)),
        ("inapplicable", .array (cards.inapplicable.map RuleCard.toJson)),
        ("unknown", .array (cards.unknown.map RuleCard.toJson))] := .refl _
  rw [ofDocument?, toJson, record?_written hlisted (by decide) (by decide)]
  simp [Grouping.lookup_cons_eq, RuleCard.list?_written_cards]

theorem CardsByStatus.exact_toJson (cards : CardsByStatus) : Exact 8 cards.toJson :=
  .object (by simp [RuleCard.exact_cards])

theorem CardsView.ofDocument?_toJson (view : CardsView) :
    ofDocument? (ofJson view.toJson) = some view := by
  have hlisted : Listed ["cards", "visualHelperEnabled", "allCardsCollapsed"]
      [("cards", view.cards.toJson), ("visualHelperEnabled", .bool view.visualHelperEnabled),
        ("allCardsCollapsed", .bool view.allCardsCollapsed)] := .refl _
  rw [ofDocument?, toJson, record?_written hlisted (by decide) (by decide)]
  simp [Grouping.lookup_cons_eq, view.cards.ofDocument?_toJson]

theorem CardsView.exact_toJson (view : CardsView) : Exact 9 view.toJson :=
  .object (by simp [Exact.bool, view.cards.exact_toJson])

/-! ## Selections -/

namespace Selection

/-- The highlights are sorted by uid, one entry for a uid. -/
def Sorted (selection : Selection) : Prop :=
  selection.highlights.Pairwise fun entry later => entry.1 < later.1

variable {selection : Selection}

theorem highlights?_written (h : selection.Sorted) :
    highlights? (ofJson (.object (selection.highlights.map fun entry =>
      (entry.1, .string entry.2.name)))) = some selection.highlights := by
  have hentries : ∀ entries : List (String × HighlightStatus),
      (entries.map fun entry => (entry.1, ofJson (.string entry.2.name))).mapM
        (fun member => do
          let status ← HighlightStatus.ofDocument? member.2
          pure (member.1, status)) = some entries := by
    intro entries
    induction entries with
    | nil => rfl
    | cons entry entries ih =>
      rw [List.map_cons, List.mapM_cons, ih, HighlightStatus.ofDocument?_name]
      rfl
  have hsorted : sortHighlights selection.highlights = selection.highlights :=
    foldl_put_of_sorted putHighlight (fun _ _ => rfl) (fun _ _ _ _ _ => rfl) h
  rw [ofJson_object, List.map_map, highlights?]
  simp only [Function.comp_def, hentries]
  rw [Option.bind_eq_bind, Option.bind_some, hsorted]
  rfl

theorem ofDocument?_toJson (h : selection.Sorted) :
    ofDocument? (ofJson selection.toJson) = some selection := by
  have hlisted : Listed
      ["selectedResultUids", "expandedRuleIds", "visualHelperEnabled", "resultsHighlightStatus"]
      [("selectedResultUids", strings selection.selectedResultUids),
        ("expandedRuleIds", strings selection.expandedRuleIds),
        ("visualHelperEnabled", .bool selection.visualHelperEnabled),
        ("resultsHighlightStatus", .object (selection.highlights.map fun entry =>
          (entry.1, .string entry.2.name)))] := .refl _
  rw [ofDocument?, toJson, record?_written hlisted (by decide) (by decide)]
  simp [Grouping.lookup_cons_eq, list?_strings, highlights?_written h]

theorem exact_toJson (selection : Selection) : Exact 2 selection.toJson := by
  have hhighlights : Exact 1 (.object (selection.highlights.map fun entry =>
      (entry.1, .string entry.2.name))) :=
    .object fun _ hm => by
      obtain ⟨entry, -, rfl⟩ := List.mem_map.mp hm
      exact .string ..
  exact .object (by simp [Exact.bool, exact_strings 0, hhighlights])

end Selection

end AccessReport
