import AccessReport.Json.Basic
/-!
# JSON texts

Two ways of writing a value: `compact` without blanks, and `pretty` with one item or member a
line, two blanks for every level. Both write members in the order they have.

A string is quoted with the short escapes where there is one; the other control characters below
`0x20` become `\u00` and two small hexadecimal digits. Nothing else is escaped.
-/
namespace AccessReport.Json

/-- A small hexadecimal digit. -/
def hexDigit (digit : Nat) : Char :=
  if digit < 10 then Char.ofNat (48 + digit) else Char.ofNat (87 + digit)

/-- One character as it stands inside quotes. -/
def escaped (c : Char) : List Char :=
  match c with
  | '"' => ['\\', '"']
  | '\\' => ['\\', '\\']
  | '\n' => ['\\', 'n']
  | '\r' => ['\\', 'r']
  | '\t' => ['\\', 't']
  | '\x08' => ['\\', 'b']
  | '\x0c' => ['\\', 'f']
  | c =>
    if c.toNat < 0x20 then
      ['\\', 'u', '0', '0', hexDigit (c.toNat / 16), hexDigit (c.toNat % 16)]
    else [c]

def quotedInside (cs : List Char) : List Char :=
  cs.flatMap escaped

/-- A text in quotes. -/
def quoted (text : String) : List Char :=
  '"' :: quotedInside text.toList ++ ['"']

/-- The text of a value that holds no other value. -/
def scalarText : Json → List Char
  | .null => ['n', 'u', 'l', 'l']
  | .bool true => ['t', 'r', 'u', 'e']
  | .bool false => ['f', 'a', 'l', 's', 'e']
  | .number value => value.text
  | .string value => quoted value
  | .array _ => ['[', ']']
  | .object _ => ['\x7b', '\x7d']

/-! ## Without blanks -/

mutual

def compactChars : Json → List Char
  | .array items => '[' :: compactItems items
  | .object members => '\x7b' :: compactMembers members
  | scalar => scalarText scalar

/-- The items and the closing bracket. -/
def compactItems : List Json → List Char
  | [] => [']']
  | item :: rest => item.compactChars ++ compactMoreItems rest

/-- The items after the first and the closing bracket. -/
def compactMoreItems : List Json → List Char
  | [] => [']']
  | item :: rest => ',' :: item.compactChars ++ compactMoreItems rest

/-- The members and the closing brace. -/
def compactMembers : List (String × Json) → List Char
  | [] => ['\x7d']
  | (name, value) :: rest =>
    quoted name ++ ':' :: value.compactChars ++ compactMoreMembers rest

/-- The members after the first and the closing brace. -/
def compactMoreMembers : List (String × Json) → List Char
  | [] => ['\x7d']
  | (name, value) :: rest =>
    ',' :: quoted name ++ ':' :: value.compactChars ++ compactMoreMembers rest

end

/-- The value without blanks. -/
def compact (value : Json) : String :=
  String.ofList value.compactChars

/-! ## One item a line -/

/-- The start of a line at a level. -/
def newLine (level : Nat) : List Char :=
  '\n' :: List.replicate (2 * level) ' '

mutual

/-- The value as it stands on a line of the given level. -/
def prettyChars (level : Nat) : Json → List Char
  | .array (item :: rest) =>
    '[' :: newLine (level + 1) ++ item.prettyChars (level + 1) ++ prettyMoreItems level rest
  | .object ((name, value) :: rest) =>
    '\x7b' :: newLine (level + 1) ++ quoted name ++ ':' :: ' ' :: value.prettyChars (level + 1)
      ++ prettyMoreMembers level rest
  | scalar => scalarText scalar

/-- The items after the first and the closing bracket, which stands at the level. -/
def prettyMoreItems (level : Nat) : List Json → List Char
  | [] => newLine level ++ [']']
  | item :: rest =>
    ',' :: newLine (level + 1) ++ item.prettyChars (level + 1) ++ prettyMoreItems level rest

/-- The members after the first and the closing brace, which stands at the level. -/
def prettyMoreMembers (level : Nat) : List (String × Json) → List Char
  | [] => newLine level ++ ['\x7d']
  | (name, value) :: rest =>
    ',' :: newLine (level + 1) ++ quoted name ++ ':' :: ' ' :: value.prettyChars (level + 1)
      ++ prettyMoreMembers level rest

end

/-- The value with one item or member a line. -/
def pretty (value : Json) : String :=
  String.ofList (value.prettyChars 0)

end AccessReport.Json
