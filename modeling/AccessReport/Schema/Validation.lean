import AccessReport.Json.Printer
import AccessReport.Schema.Basic
/-!
# Validation against a schema

Everything in a value that does not fit a schema. A value is valid if there is no such fault.
-/
namespace AccessReport

inductive SchemaFault where
  | wrongType (value : Json) (types : List String)
  | missing (field : String)
  | notOneOf (value : Json) (names : List String)
  | noAlternative (value : Json)

def SchemaFault.message : SchemaFault → String
  | wrongType value [type] => value.compact ++ s!" is not of type \"{type}\""
  | wrongType value types =>
    value.compact ++ " is not of types "
      ++ ", ".intercalate (types.map fun type => "\"" ++ type ++ "\"")
  | missing field => s!"\"{field}\" is a required property"
  | notOneOf value names => value.compact ++ " is not one of " ++ (Json.strings names).compact
  | noAlternative value => value.compact ++ " is not valid under any of the given schemas"

namespace Schema

/-- The type of a value, as schemas name it. -/
def typeOf : Json → String
  | .null => "null"
  | .bool _ => "boolean"
  | .number _ => "number"
  | .string _ => "string"
  | .array _ => "array"
  | .object _ => "object"

/-- The one type of the values of a schema that has no name. -/
def plainType? : Schema → Option String
  | text => some "string"
  | flag => some "boolean"
  | listOf _ => some "array"
  | mapOf _ => some "object"
  | _ => none

/-- The faults of a value that may be null, from those against the inner schema. -/
def optionalFaults (inner : Schema) (value : Json) (faults : List SchemaFault) :
    List SchemaFault :=
  if typeOf value = "null" then []
  else match inner.plainType? with
    | some type =>
      if typeOf value = type then faults
      else [.wrongType value (["null", type].mergeSort fun a b => a ≤ b)]
    | none => if faults.isEmpty then [] else [.noAlternative value]

def choiceFaults (variants : List Variant) (value : Json) : List SchemaFault :=
  let names := variants.map (·.name)
  let allowed := match value with
    | .string name => names.contains name
    | _ => false
  if allowed then []
  else if variants.any (·.description.isSome) then [.noAlternative value]
  else .notOneOf value names
    :: if typeOf value = "string" then [] else [.wrongType value ["string"]]

/-- The required fields that are not there. -/
def missingFields (fields : List (Field × Schema)) (members : List (String × Json)) :
    List SchemaFault :=
  (fields.filter fun field =>
    field.1.isRequired && (members.lookup field.1.name).isNone).map fun field =>
      .missing field.1.name

mutual

/-- What does not fit the schema. -/
def faults : Schema → Json → List SchemaFault
  | any, _ => []
  | text, value => if typeOf value = "string" then [] else [.wrongType value ["string"]]
  | flag, value => if typeOf value = "boolean" then [] else [.wrongType value ["boolean"]]
  | listOf items, value => match value with
    | .array values => values.flatMap items.faults
    | other => [.wrongType other ["array"]]
  | mapOf values, value => match value with
    | .object members => members.flatMap fun member => values.faults member.2
    | other => [.wrongType other ["object"]]
  | optional inner, value => optionalFaults inner value (inner.faults value)
  | choice _ _ variants, value => choiceFaults variants value
  | record _ _ fields, value => match value with
    | .object members => fieldFaults fields members ++ missingFields fields members
    | other => [.wrongType other ["object"]]

/-- What does not fit among the fields that are there. -/
def fieldFaults : List (Field × Schema) → List (String × Json) → List SchemaFault
  | [], _ => []
  | (field, schema) :: rest, members =>
    (match members.lookup field.name with
      | some value => schema.faults value
      | none => []) ++ fieldFaults rest members

end

def isValid (schema : Schema) (value : Json) : Bool := (schema.faults value).isEmpty

/-- What is said about a value that does not fit (`validate_json`). -/
def failureText (schema : Schema) (value : Json) : String :=
  "Schema validation failed: "
    ++ "; ".intercalate ((schema.faults value).map (·.message))

end Schema
end AccessReport
