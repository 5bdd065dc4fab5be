import AccessReport.Numeric.Binary64
/-!
# JSON values

Values as the program holds and writes them. The members of an object have an order, which is the
order in which they are written. The data that an engine attaches to a check is kept with the
members of every object sorted by name, one member for a name.
-/
namespace AccessReport

open Numeric

namespace Json

/-- A number: a whole one, exact, or a binary floating point value. -/
inductive Number where
  | integer (value : Int)
  | float (value : Binary64)
deriving DecidableEq, Repr

/-- Whole numbers are held exactly from `-2 ^ 63` to `2 ^ 64 - 1`. -/
def holdsInteger (n : Int) : Bool :=
  -0x8000000000000000 ≤ n && n < 0x10000000000000000

def Number.text : Number → List Char
  | .integer value => signed value
  | .float value => value.text

end Json

/-- A JSON value. -/
inductive Json where
  | null
  | bool (value : Bool)
  | number (value : Json.Number)
  | string (value : String)
  | array (items : List Json)
  | object (members : List (String × Json))
deriving Repr

namespace Json

def integer (n : Int) : Json := .number (.integer n)

/-- A list of texts. -/
def strings (texts : List String) : Json := .array (texts.map .string)

/-- The value of a member of an object. -/
def get? (name : String) : Json → Option Json
  | .object members => members.lookup name
  | _ => none

/-! ## Members sorted by name -/

/-- The member put in its place among members sorted by name; it takes the place of a member with
the same name. -/
def put (name : String) (value : Json) : List (String × Json) → List (String × Json)
  | [] => [(name, value)]
  | (other, held) :: rest =>
    if name = other then (name, value) :: rest
    else if name < other then (name, value) :: (other, held) :: rest
    else (other, held) :: put name value rest

/-- The members sorted by name; of several with one name the last one stays. -/
def sortMembers (members : List (String × Json)) : List (String × Json) :=
  members.foldl (fun sorted member => put member.1 member.2 sorted) []

mutual

/-- The value with the members of every object in it sorted by name. -/
def sorted : Json → Json
  | .array items => .array (sortedItems items)
  | .object members => .object (sortMembers (sortedMembers members))
  | other => other

def sortedItems : List Json → List Json
  | [] => []
  | item :: rest => item.sorted :: sortedItems rest

def sortedMembers : List (String × Json) → List (String × Json)
  | [] => []
  | (name, value) :: rest => (name, value.sorted) :: sortedMembers rest

end

/-! ## Members of a written object -/

/-- A member that is always written. -/
def member (name : String) (value : Json) : List (String × Json) := [(name, value)]

/-- A member that is written only when there is a value. -/
def memberIfSome {α : Type} (name : String) (value : α → Json) :
    Option α → List (String × Json)
  | none => []
  | some held => [(name, value held)]

/-- A member that is written only when the list is not empty. -/
def memberIfAny {α : Type} (name : String) (value : α → Json) :
    List α → List (String × Json)
  | [] => []
  | items => [(name, .array (items.map value))]

end Json
end AccessReport
