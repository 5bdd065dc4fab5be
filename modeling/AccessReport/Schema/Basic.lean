import AccessReport.Json.Basic
/-!
# Schemas

What JSON values of a type look like. Records and choices have names, under which they are
referred to from other schemas; everything else stands where it is used.
-/
namespace AccessReport

namespace Schema

/-- One of the names that a choice allows. -/
structure Variant where
  name : String
  description : Option String := none

/-- What a missing field means. -/
inductive Absence where
  /-- The field has to be there. -/
  | never
  /-- The field may be missing. -/
  | allowed
  /-- The field may be missing and then has this value. -/
  | standsFor (value : Json)

structure Field where
  name : String
  description : Option String := none
  absence : Absence := .never

def Field.isRequired (field : Field) : Bool :=
  match field.absence with
  | .never => true
  | _ => false

end Schema

inductive Schema where
  | any
  | text
  | flag
  | listOf (items : Schema)
  /-- Objects with any names. -/
  | mapOf (values : Schema)
  /-- Null, or a value of the inner schema. -/
  | optional (inner : Schema)
  | choice (name : String) (description : Option String) (variants : List Schema.Variant)
  /-- Objects with at least the required fields. -/
  | record (name : String) (description : Option String) (fields : List (Schema.Field × Schema))

namespace Schema

mutual

/-- The named schemas in a schema, itself included. -/
def named : Schema → List (String × Schema)
  | any | text | flag => []
  | listOf inner | mapOf inner | optional inner => inner.named
  | choice name description variants => [(name, choice name description variants)]
  | record name description fields => (name, record name description fields) :: namedFields fields

def namedFields : List (Field × Schema) → List (String × Schema)
  | [] => []
  | (_, schema) :: rest => schema.named ++ namedFields rest

end

/-! ## Making fields -/

/-- A field that has to be there. -/
def required (name : String) (schema : Schema) (description : Option String := none) :
    Field × Schema :=
  ({ name, description }, schema)

/-- A field that may be missing. -/
def omissible (name : String) (schema : Schema) (description : Option String := none) :
    Field × Schema :=
  ({ name, description, absence := .allowed }, schema)

/-- A field that may be missing or null. -/
def nullable (name : String) (schema : Schema) (description : Option String := none) :
    Field × Schema :=
  omissible name (.optional schema) description

/-- A field that may be missing and then has a value. -/
def defaulted (name : String) (schema : Schema) (value : Json)
    (description : Option String := none) : Field × Schema :=
  ({ name, description, absence := .standsFor value }, schema)

end Schema
end AccessReport
