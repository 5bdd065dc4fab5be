import AccessReport.Json.Document
/-!
# Records

A record has fields with names, in a declared order. A text gives it as an object or as an array
of its fields in that order.

* Members with unknown names are ignored; a known name given twice is an error.
* An array may be shorter than the record, never longer.
* A missing field is an error unless the field has a default or may be empty.

Results:
* `record?_unknown`: a member with an unknown name changes nothing.
-/
namespace AccessReport

/-- The fields of a record that a document gives. -/
structure Fields where
  given : List (String × Document)

namespace Fields

def get? (fields : Fields) (name : String) : Option Document :=
  fields.given.lookup name

/-- A field without a default. -/
def required {α : Type} (fields : Fields) (name : String) (read? : Document → Option α) :
    Option α :=
  match fields.get? name with
  | none => none
  | some document => read? document

/-- A field with a default. -/
def defaulted {α : Type} (fields : Fields) (name : String) (read? : Document → Option α)
    (absent : α) : Option α :=
  match fields.get? name with
  | none => some absent
  | some document => read? document

/-- A field that may be left out or empty. -/
def optional {α : Type} (fields : Fields) (name : String) (read? : Document → Option α) :
    Option (Option α) :=
  fields.defaulted name (Document.option? read?) none

end Fields

namespace Document

/-- Whether a name occurs twice among the members. -/
def repeatsName : List (String × Document) → Bool
  | [] => false
  | (name, _) :: rest => rest.any (fun member => member.1 == name) || repeatsName rest

/-- The fields that an object gives a record with these names. -/
def objectFields? (names : List String) (members : List (String × Document)) : Option Fields :=
  let known := members.filter fun member => names.contains member.1
  if repeatsName known then none else some ⟨known⟩

/-- The fields that a document gives a record with these names, in the declared order. -/
def record? (names : List String) : Document → Option Fields
  | .object members => objectFields? names members
  | .array items => if items.length ≤ names.length then some ⟨names.zip items⟩ else none
  | _ => none

theorem record?_unknown (names : List String) (before after : List (String × Document))
    (name : String) (document : Document) (h : names.contains name = false) :
    record? names (.object (before ++ (name, document) :: after))
      = record? names (.object (before ++ after)) := by
  have hn : name ∉ names := by simpa using h
  simp [record?, objectFields?, List.filter_append, hn]

end Document
end AccessReport
