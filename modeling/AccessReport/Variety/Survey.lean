import AccessReport.Json.Printer
import AccessReport.Variety.Basic
/-!
# Surveys

What can be seen in the values of a variety, place by place: the types there, whether the place can
be missing, how long the values are, and what is in them. A place is a field of an object, or
anywhere in a list.
-/
namespace AccessReport

namespace Survey

inductive Step where
  | field (name : String)
  | item
deriving DecidableEq, Repr

/-- A place in a value, from the inside to the outside. -/
abbrev Place := List Step

/-- The path to a place. -/
def pathText : Place → String
  | [] => "$"
  | .field name :: outer => s!"{pathText outer}.{name}"
  | .item :: outer => s!"{pathText outer}[]"

/-- One kind of value that was seen. -/
inductive Sighting where
  | scalar (value : Json)
  | number
  | text (pattern : Pattern)
  | list (least most : Nat)
  /-- An object, with the numbers of its members and the names that are always there. -/
  | object (least most : Nat) (certain : List String)

/-- The type of a value. -/
def typeOf : Json → String
  | .null => "null"
  | .bool _ => "bool"
  | .number _ => "number"
  | .string _ => "string"
  | .array _ => "array"
  | .object _ => "object"

def Sighting.type : Sighting → String
  | scalar value => typeOf value
  | number => "number"
  | text _ => "string"
  | list _ _ => "array"
  | object _ _ _ => "object"

/-! ## Looking at values -/

abbrev Sightings := List (Place × Sighting)

mutual

/-- What is seen in one value. -/
def ofValue (place : Place) : Json → Sightings
  | .array items => (place, .list items.length items.length) :: ofItems place items
  | .object members =>
    (place, .object members.length members.length (members.map (·.1)))
      :: ofMembers place members
  | scalar => [(place, .scalar scalar)]

def ofItems (place : Place) : List Json → Sightings
  | [] => []
  | item :: rest => ofValue (.item :: place) item ++ ofItems place rest

def ofMembers (place : Place) : List (String × Json) → Sightings
  | [] => []
  | (name, value) :: rest => ofValue (.field name :: place) value ++ ofMembers place rest

end

/-- The names of the fields that are always there. -/
def certainNames (fields : List (String × Bool × Variety)) : List String :=
  (fields.filter (·.2.1)).map (·.1)

mutual

/-- What is seen in the values of a variety. -/
def ofVariety (place : Place) : Variety → Sightings
  | .exactly value => ofValue place value
  | .anyOf alternatives => ofAll place alternatives
  | .number => [(place, .number)]
  | .text pattern => [(place, .text pattern)]
  | .listOf least most items =>
    (place, .list least most) :: if most = 0 then [] else ofVariety (.item :: place) items
  | .record fields =>
    (place, .object (certainNames fields).length fields.length (certainNames fields))
      :: ofFields place fields
  | .mapOf names least most values =>
    (place, .object least most [])
      :: names.flatMap fun name => ofVariety (.field name :: place) values

def ofAll (place : Place) : List Variety → Sightings
  | [] => []
  | variety :: rest => ofVariety place variety ++ ofAll place rest

def ofFields (place : Place) : List (String × Bool × Variety) → Sightings
  | [] => []
  | (name, _, variety) :: rest => ofVariety (.field name :: place) variety ++ ofFields place rest

end

/-! ## Facts -/

/-- What is known about a place. -/
structure Facts where
  types : List String
  /-- Of fields only. -/
  missable : Option Bool
  lengths : Option (Nat × Nat)
  values : List String
  characters : List Char
deriving Repr

/-- The texts sorted, each of them once. -/
def sortTexts (texts : List String) : List String := texts.eraseDups.mergeSort (· ≤ ·)

def Sighting.lengths? : Sighting → Option (Nat × Nat)
  | scalar (.string held) => some (held.length, held.length)
  | scalar _ | number => none
  | text pattern => some (pattern.least, pattern.most)
  | list least most | object least most _ => some (least, most)

def Sighting.characters : Sighting → List Char
  | scalar (.string held) => held.toList
  | text pattern => pattern.characters
  | _ => []

def Sighting.value? : Sighting → Option String
  | scalar value => some value.compact
  | _ => none

/-- Whether the object that was seen can be without a name. -/
def Sighting.canMiss (name : String) : Sighting → Bool
  | object _ _ certain => !certain.contains name
  | _ => false

def at? (sightings : Sightings) (place : Place) : List Sighting :=
  (sightings.filter (·.1 == place)).map (·.2)

/-- Whether some object that could have the field is without it. -/
def isMissable (sightings : Sightings) : Place → Option Bool
  | .field name :: outer => some ((at? sightings outer).any (·.canMiss name))
  | _ => none

/-- The least and the greatest length. -/
def spread : List (Nat × Nat) → Option (Nat × Nat)
  | [] => none
  | first :: rest =>
    some (rest.foldl (fun whole one => (min whole.1 one.1, max whole.2 one.2)) first)

def factsAt (sightings : Sightings) (place : Place) : Facts :=
  let seen := at? sightings place
  { types := sortTexts (seen.map (·.type))
    missable := isMissable sightings place
    lengths := spread (seen.filterMap (·.lengths?))
    values := sortTexts (seen.filterMap (·.value?))
    characters := (seen.flatMap (·.characters)).eraseDups.mergeSort (· ≤ ·) }

/-- The facts about every place of the values of a variety. -/
def ofVarietyFacts (variety : Variety) : List (String × Facts) :=
  let sightings := ofVariety [] variety
  (sightings.map (·.1)).eraseDups.map fun place => (pathText place, factsAt sightings place)

end Survey

/-- The facts about every place, under the paths to them. -/
def Variety.survey (variety : Variety) : List (String × Survey.Facts) :=
  Survey.ofVarietyFacts variety

end AccessReport
