/-!
# Text patterns

Texts of which only the form is known: what they are put together from, how long they can be, and
which characters are in them.
-/
namespace AccessReport

inductive Pattern where
  | exactly (text : String)
  /-- One of some characters. -/
  | among (characters : List Char)
  | sequence (parts : List Pattern)
  | either (alternatives : List Pattern)
  | repeated (least most : Nat) (inner : Pattern)

namespace Pattern

def total : List Nat → Nat
  | [] => 0
  | first :: rest => first + total rest

/-- The least of some numbers, or zero if there are none. -/
def leastOf : List Nat → Nat
  | [] => 0
  | first :: rest => rest.foldl min first

def mostOf (numbers : List Nat) : Nat := numbers.foldl max 0

mutual

/-- The length of the shortest texts. -/
def least : Pattern → Nat
  | exactly text => text.length
  | among _ => 1
  | sequence parts => total (leasts parts)
  | either alternatives => leastOf (leasts alternatives)
  | repeated count _ inner => count * inner.least

def leasts : List Pattern → List Nat
  | [] => []
  | pattern :: rest => pattern.least :: leasts rest

end

mutual

/-- The length of the longest texts. -/
def most : Pattern → Nat
  | exactly text => text.length
  | among _ => 1
  | sequence parts => total (mosts parts)
  | either alternatives => mostOf (mosts alternatives)
  | repeated _ count inner => count * inner.most

def mosts : List Pattern → List Nat
  | [] => []
  | pattern :: rest => pattern.most :: mosts rest

end

mutual

/-- The characters that can be in the texts, some of them perhaps more than once. -/
def characters : Pattern → List Char
  | exactly text => text.toList
  | among characters => characters
  | sequence parts => charactersOfAll parts
  | either alternatives => charactersOfAll alternatives
  | repeated _ count inner => if count = 0 then [] else inner.characters

def charactersOfAll : List Pattern → List Char
  | [] => []
  | pattern :: rest => pattern.characters ++ charactersOfAll rest

end

/-! ## Words -/

def smallLetters : List Char := "abcdefghijklmnopqrstuvwxyz".toList

def letters : List Char := "ABCDEFGHIJKLMNOPQRSTUVWXYZ".toList ++ smallLetters

/-- A word in small letters. -/
def word (least most : Nat) : Pattern := repeated least most (among smallLetters)

/-- Letters and blanks. -/
def prose (least most : Nat) : Pattern := repeated least most (among (letters ++ [' ']))

/-- What may be missing. -/
def possibly (parts : List Pattern) : Pattern := repeated 0 1 (sequence parts)

end Pattern
end AccessReport
