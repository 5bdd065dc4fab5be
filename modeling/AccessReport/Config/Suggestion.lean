import AccessReport.Config.Basic
import AccessReport.Text.EditDistance
import AccessReport.Text.Lowercase
import AccessReport.Text.Parts
/-!
# Suggestions for an unknown rule

Which of the configured rules may be meant by an id that no rule has. Ids are compared in lower
case; the closest come first, equally close ones in their configured order.
-/
namespace AccessReport

open Text

/-- How two ids are alike. -/
inductive Closeness where
  /-- One begins with the other. -/
  | beginning
  /-- One contains the other elsewhere. -/
  | piece
  /-- A few edits turn one into the other. -/
  | typo (edits : Nat)
deriving DecidableEq, Repr

namespace Closeness

/-- More edits are no typo. -/
def maxEdits : Nat := 3

/-- A lower rank is closer. -/
def rank : Closeness → Nat
  | beginning => 0
  | piece => 1
  | typo edits => 2 + edits

/-- The number of bytes of the characters in UTF-8. -/
def byteCount : List Char → Nat
  | [] => 0
  | c :: cs => c.utf8Size + byteCount cs

/-- The text with fewer bytes, and then the other one. -/
def shorterFirst (wanted candidate : List Char) : List Char × List Char :=
  if byteCount wanted ≤ byteCount candidate then (wanted, candidate) else (candidate, wanted)

/-- How two ids are alike, if they are at all (`between`). -/
def between? (wanted candidate : List Char) : Option Closeness :=
  let (short, long) := shorterFirst wanted candidate
  if short.isPrefixOf long then some beginning
  else if occursIn short long then some piece
  else
    let edits := Edit.distance wanted candidate
    if edits ≤ maxEdits then some (typo edits) else none

end Closeness

namespace Suggestion

def maxCount : Nat := 5

/-- The id with its closeness to what was wanted. -/
def rate (wanted : String) (id : String) : Option (Closeness × String) :=
  (Closeness.between? (lowercase wanted).toList (lowercase id).toList).map (·, id)

/-- The ids that are alike, closest first. -/
def ranked (wanted : String) (ids : List String) : List (Closeness × String) :=
  (ids.filterMap (rate wanted)).mergeSort fun a b => a.1.rank ≤ b.1.rank

/-- The closest ids (`find_similar_rules`). -/
def suggestions (wanted : String) (ids : List String) : List String :=
  ((ranked wanted ids).take maxCount).map (·.2)

end Suggestion
end AccessReport
