import AccessReport.Json.Printer
import AccessReport.Schema.Basic
/-!
# Schemas as JSON

A schema as a JSON Schema of draft 7. Named schemas stand once, among the definitions, and are
referred to everywhere else. The keys of a schema have a fixed order: title, description, default,
type, enumeration, combinations, items, required names, properties, reference. Required names,
properties and definitions are sorted by name.
-/
namespace AccessReport.Schema

open Json (memberIfSome)

/-- A schema as the members of an object. -/
abbrev Members := List (String × Json)

def typeMember (type : String) : Members := [("type", .string type)]

def reference (name : String) : Members := [("$ref", .string ("#/definitions/" ++ name))]

/-- The schema, or null. -/
def orNull : Members → Members
  | ("type", type) :: rest => ("type", .array [type, .string "null"]) :: rest
  | other => [("anyOf", .array [.object other, .object (typeMember "null")])]

/-- The schema where it is used. -/
def usage : Schema → Members
  | any => []
  | text => typeMember "string"
  | flag => typeMember "boolean"
  | listOf items => typeMember "array" ++ [("items", .object items.usage)]
  | mapOf values => typeMember "object" ++ [("additionalProperties", .object values.usage)]
  | optional inner => orNull inner.usage
  | choice name _ _ | record name _ _ => reference name

def describe (description : Option String) : Members :=
  memberIfSome "description" .string description

/-- What a field says besides its schema. -/
def Field.annotations (field : Field) : Members :=
  describe field.description ++ match field.absence with
    | .standsFor value => [("default", value)]
    | _ => []

/-- The schema of a field. A reference that says more is wrapped. -/
def fieldJson (field : Field) (schema : Schema) : Json :=
  match field.annotations, schema.usage with
  | [], members => .object members
  | annotations, [("$ref", target)] =>
    .object (annotations ++ [("allOf", .array [.object [("$ref", target)]])])
  | annotations, members => .object (annotations ++ members)

/-- The fields sorted by name. -/
def sortFields (fields : List (Field × Schema)) : List (Field × Schema) :=
  fields.mergeSort fun a b => a.1.name ≤ b.1.name

/-- A member that is left out if there is nothing in it. -/
def requiredMember (fields : List (Field × Schema)) : Members :=
  match (fields.filter (·.1.isRequired)).map (·.1.name) with
  | [] => []
  | names => [("required", .strings names)]

def propertiesMember (fields : List (Field × Schema)) : Members :=
  match fields with
  | [] => []
  | fields => [("properties",
      .object (fields.map fun (field, schema) => (field.name, fieldJson field schema)))]

def variantJson (variant : Variant) : Json :=
  .object (describe variant.description ++ typeMember "string"
    ++ [("enum", .strings [variant.name])])

/-- The names of a choice, one by one if some of them are described. -/
def variantsMembers (variants : List Variant) : Members :=
  if variants.any (·.description.isSome) then
    [("oneOf", .array (variants.map variantJson))]
  else typeMember "string" ++ [("enum", .strings (variants.map (·.name)))]

/-- The schema where it is defined. -/
def definition : Schema → Members
  | choice _ description variants => describe description ++ variantsMembers variants
  | record _ description fields =>
    describe description ++ typeMember "object" ++ requiredMember (sortFields fields)
      ++ propertiesMember (sortFields fields)
  | other => other.usage

/-- The name of a schema that has one. -/
def name? : Schema → Option String
  | choice name _ _ | record name _ _ => some name
  | _ => none

/-- The definitions that a schema refers to, its own left out. -/
def definitions (schema : Schema) : Members :=
  Json.sortMembers ((schema.named.filter fun entry => some entry.1 != schema.name?).map
    fun entry => (entry.1, .object entry.2.definition))

def definitionsMember (schema : Schema) : Members :=
  match schema.definitions with
  | [] => []
  | definitions => [("definitions", .object definitions)]

/-- The schema as a document of its own. -/
def toJson (schema : Schema) : Json :=
  .object ([("$schema", .string "http://json-schema.org/draft-07/schema#")]
    ++ memberIfSome "title" .string schema.name?
    ++ schema.definition ++ schema.definitionsMember)

end AccessReport.Schema
