import AccessReport.Json.Basic
/-!
# Names of fields

The fields of what is exported are named in one way: small letters and digits, with a capital
letter where a new word starts. A few names of the exchange format have hyphens instead.

Results:
* `offending_eq_nil`: nothing offends if and only if every name is of one of these kinds.
-/
namespace AccessReport.Naming

/-- The names with hyphens. -/
def hyphenated : List String := ["css-selector", "how-to-fix-web", "how-to-check-web"]

/-- Whether a name has only letters and digits and starts with a small letter (`is_camel_case`). -/
def isCamelCase (name : String) : Bool :=
  match name.toList with
  | first :: rest => first.isLower && rest.all Char.isAlphanum
  | [] => false

def isAllowed (name : String) : Bool := isCamelCase name || hyphenated.contains name

mutual

/-- The names of all fields, each before those inside it (`collect_field_names_recursive`). -/
def fieldNames : Json → List String
  | .array items => itemNames items
  | .object members => memberNames members
  | _ => []

def itemNames : List Json → List String
  | [] => []
  | item :: rest => fieldNames item ++ itemNames rest

def memberNames : List (String × Json) → List String
  | [] => []
  | (name, value) :: rest => name :: fieldNames value ++ memberNames rest

end

/-- The names of fields that are of no allowed kind (`verify_camel_case_fields`). -/
def offending (value : Json) : List String :=
  (fieldNames value).filter fun name => !isAllowed name

theorem offending_eq_nil (value : Json) :
    offending value = [] ↔ ∀ name ∈ fieldNames value, isAllowed name = true := by
  simp [offending]

end AccessReport.Naming
