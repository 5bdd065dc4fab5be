import AccessReport.Json.Record
/-!
# Guidance links

References that tell the reader of a report which standard a rule belongs to. A rule without a
formal citation refers to the synthetic link "Best Practice", which leads nowhere.
-/
namespace AccessReport

/-- A mark shown beside a link. -/
structure GuidanceTag where
  id : String
  displayText : String
deriving DecidableEq, Repr

/-- A reference to a standard. -/
structure GuidanceLink where
  text : String
  href : String
  tags : Option (List GuidanceTag) := none
deriving DecidableEq, Repr

namespace GuidanceLink

def bestPracticeText : String := "Best Practice"

/-- The link of rules that follow good practice instead of a standard. -/
def bestPractice : GuidanceLink := { text := bestPracticeText, href := "" }

def isBestPractice (link : GuidanceLink) : Bool :=
  link.href.isEmpty && link.text == bestPracticeText

end GuidanceLink

/-! ## Format -/

def GuidanceTag.ofDocument? (document : Document) : Option GuidanceTag := do
  let fields ← document.record? ["id", "displayText"]
  pure {
    id := ← fields.required "id" Document.text?
    displayText := ← fields.required "displayText" Document.text? }

def GuidanceTag.toJson (tag : GuidanceTag) : Json :=
  .object [("id", .string tag.id), ("displayText", .string tag.displayText)]

def GuidanceLink.ofDocument? (document : Document) : Option GuidanceLink := do
  let fields ← document.record? ["text", "href", "tags"]
  pure {
    text := ← fields.required "text" Document.text?
    href := ← fields.required "href" Document.text?
    tags := ← fields.optional "tags" (Document.list? GuidanceTag.ofDocument?) }

def GuidanceLink.toJson (link : GuidanceLink) : Json :=
  .object (
    Json.member "text" (.string link.text)
    ++ Json.member "href" (.string link.href)
    ++ Json.memberIfSome "tags" (fun tags => .array (tags.map GuidanceTag.toJson)) link.tags)

end AccessReport
