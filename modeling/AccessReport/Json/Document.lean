import AccessReport.Json.Basic
/-!
# Documents

What a text in a data format says, before anyone asks for a particular record: a tree whose
records keep their members in the order of the text, repeated names included.

A part of a text may be well formed and still name no value that can be held: a number beyond the
floating point range, half of a surrogate pair, containers nested too deeply. Such a part is
`unusable`. That matters only to a reader who asks for it: a record ignores members with names it
does not know, whatever they hold.
-/
namespace AccessReport

inductive Document where
  | null
  | bool (value : Bool)
  | number (value : Json.Number)
  | string (value : String)
  | array (items : List Document)
  | object (members : List (String × Document))
  | unusable
deriving Repr, Inhabited

namespace Document

mutual

/-- The document as a value: members sorted by name, the last of several with one name. -/
def value? : Document → Option Json
  | .null => some .null
  | .bool value => some (.bool value)
  | .number value => some (.number value)
  | .string value => some (.string value)
  | .array items => (values? items).map .array
  | .object members => (memberValues? members).map fun held => .object (Json.sortMembers held)
  | .unusable => none

def values? : List Document → Option (List Json)
  | [] => some []
  | item :: rest => do
    let value ← item.value?
    let values ← values? rest
    pure (value :: values)

def memberValues? : List (String × Document) → Option (List (String × Json))
  | [] => some []
  | (name, document) :: rest => do
    let value ← document.value?
    let values ← memberValues? rest
    pure ((name, value) :: values)

end

mutual

/-- A value as a document. -/
def ofJson : Json → Document
  | .null => .null
  | .bool value => .bool value
  | .number value => .number value
  | .string value => .string value
  | .array items => .array (ofJsonItems items)
  | .object members => .object (ofJsonMembers members)

def ofJsonItems : List Json → List Document
  | [] => []
  | item :: rest => ofJson item :: ofJsonItems rest

def ofJsonMembers : List (String × Json) → List (String × Document)
  | [] => []
  | (name, value) :: rest => (name, ofJson value) :: ofJsonMembers rest

end

/-! ## Plain parts -/

def text? : Document → Option String
  | .string value => some value
  | _ => none

def flag? : Document → Option Bool
  | .bool value => some value
  | _ => none

/-- A list whose items are read one by one. -/
def list? {α : Type} (item? : Document → Option α) : Document → Option (List α)
  | .array items => items.mapM item?
  | _ => none

/-- A part that may be left empty. -/
def option? {α : Type} (held? : Document → Option α) : Document → Option (Option α)
  | .null => some none
  | document => (held? document).map some

/-- Whether a format writes the payload of a name that needs none like this. -/
abbrev Payload := Document → Bool

/-- The empty payload of JSON texts. -/
def nullPayload : Payload
  | .null => true
  | _ => false

/-- One of the named values: the name, or a record with the name as its only member and an empty
payload under it. -/
def choice? {α : Type} (empty : Payload) (named : List (String × α)) : Document → Option α
  | .string name => named.lookup name
  | .object [(name, payload)] => if empty payload then named.lookup name else none
  | _ => none

end Document
end AccessReport
