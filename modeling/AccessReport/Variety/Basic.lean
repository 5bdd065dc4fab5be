import AccessReport.Json.Basic
import AccessReport.Variety.Pattern
/-!
# Varieties

Which JSON values there can be where something is made up at random: a variety says of every part
of them what it can look like. The parts of a value are made up independently of each other.
-/
namespace AccessReport

inductive Variety where
  | exactly (value : Json)
  | anyOf (alternatives : List Variety)
  | number
  | text (pattern : Pattern)
  | listOf (least most : Nat) (items : Variety)
  /-- Objects with some fields, of which those that are not marked as certain can be missing. -/
  | record (fields : List (String × Bool × Variety))
  /-- Objects with some of the names. -/
  | mapOf (names : List String) (least most : Nat) (values : Variety)

namespace Variety

/-- One of some texts. -/
def ofTexts (texts : List String) : Variety := anyOf (texts.map fun text => exactly (.string text))

def flag : Variety := anyOf [exactly (.bool false), exactly (.bool true)]

/-- A field that is always there. -/
def certain (name : String) (variety : Variety) : String × Bool × Variety := (name, true, variety)

/-- A field that can be missing. -/
def possible (name : String) (variety : Variety) : String × Bool × Variety := (name, false, variety)

end Variety
end AccessReport
