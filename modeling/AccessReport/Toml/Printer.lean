import AccessReport.Json.Printer
import AccessReport.Text.Parts
import AccessReport.Toml.Reader
/-!
# Writing TOML texts

A document is written as sections: the keys of the root, and then tables and elements of lists of
tables, each with its header and its own keys. Values are texts, truth values and lists of texts.

A text takes the first of four styles that fits it: quoted, literal, quoted over several lines,
literal over several lines. If none fits it is quoted with escapes, over several lines if it has
an end of a line.
-/
namespace AccessReport.Toml

open Text

/-- A value that can be written. -/
inductive Plain where
  | text (value : String)
  | flag (value : Bool)
  | texts (values : List String)
deriving DecidableEq, Repr

/-! ## Styles -/

def fitsBasic (cs : List Char) : Bool := cs.all fun c => isPlain c && c != '"' && c != '\\'

def fitsLiteral (cs : List Char) : Bool := cs.all fun c => isPlain c && c != '\''

/-- Three quotes would end the text. -/
def endsIn (quote : Char) (cs : List Char) : Bool := occursIn [quote, quote, quote] cs

def fitsMultiline (cs : List Char) : Bool :=
  cs.all (fun c => (isPlain c || c == '\n') && c != '\\') && !endsIn '"' cs

def fitsMultilineLiteral (cs : List Char) : Bool :=
  cs.all (fun c => isPlain c || c == '\n') && !endsIn '\'' cs

/-- A large hexadecimal digit. -/
def hexDigit (digit : Nat) : Char :=
  if digit < 10 then Char.ofNat (48 + digit) else Char.ofNat (55 + digit)

/-- One character as it stands between quotes. -/
def escaped (c : Char) : List Char :=
  match c with
  | '"' => ['\\', '"']
  | '\\' => ['\\', '\\']
  | '\n' => ['\\', 'n']
  | '\r' => ['\\', 'r']
  | '\t' => ['\\', 't']
  | '\x08' => ['\\', 'b']
  | '\x0c' => ['\\', 'f']
  | c =>
    if isPlain c then [c]
    else ['\\', 'u', '0', '0', hexDigit (c.toNat / 16), hexDigit (c.toNat % 16)]

/-- Characters between quotes over several lines, behind a number of quotes in a row: each third
one is escaped, and ends of lines stay. -/
def escapedLines (quotes : Nat) : List Char → List Char
  | [] => []
  | c :: rest =>
    if c = '"' then
      if quotes < 2 then '"' :: escapedLines (quotes + 1) rest
      else '\\' :: '"' :: escapedLines 0 rest
    else if c = '\n' then '\n' :: escapedLines 0 rest
    else escaped c ++ escapedLines 0 rest

/-- A text with an end of a line starts on a line of its own. -/
def opening (cs : List Char) : List Char := if cs.contains '\n' then ['\n'] else []

def basic (cs : List Char) : List Char := '"' :: cs.flatMap escaped ++ ['"']

def literal (cs : List Char) : List Char := '\'' :: cs ++ ['\'']

def multiline (cs : List Char) : List Char :=
  ['"', '"', '"'] ++ opening cs ++ escapedLines 0 cs ++ ['"', '"', '"']

def multilineLiteral (cs : List Char) : List Char :=
  ['\'', '\'', '\''] ++ opening cs ++ cs ++ ['\'', '\'', '\'']

/-- The text in the first style that fits. -/
def textChars (cs : List Char) : List Char :=
  if fitsBasic cs then basic cs
  else if fitsLiteral cs then literal cs
  else if fitsMultiline cs then multiline cs
  else if fitsMultilineLiteral cs then multilineLiteral cs
  else if cs.contains '\n' then multiline cs
  else basic cs

/-! ## Values and sections -/

def quoted (text : String) : String := String.ofList (textChars text.toList)

/-- Several texts stand on a line each. -/
def Plain.write : Plain → String
  | text value => quoted value
  | flag value => if value then "true" else "false"
  | texts [] => "[]"
  | texts [value] => "[" ++ quoted value ++ "]"
  | texts values =>
    "[\n" ++ String.join (values.map fun value => "    " ++ quoted value ++ ",\n") ++ "]"

/-- What opens the keys of a section. -/
inductive Header where
  | table (path : List String)
  | element (path : List String)
deriving DecidableEq, Repr

def Header.write : Header → String
  | table path => "[" ++ ".".intercalate path ++ "]"
  | element path => "[[" ++ ".".intercalate path ++ "]]"

/-- The keys of a table. -/
structure Section where
  header : Header
  keys : List (String × Plain)
deriving DecidableEq, Repr

def writeKeys (keys : List (String × Plain)) : String :=
  String.join (keys.map fun (key, value) => key ++ " = " ++ value.write ++ "\n")

def Section.write (part : Section) : String := part.header.write ++ "\n" ++ writeKeys part.keys

/-- The keys of the root, and the sections with an empty line before each that does not start the
text. -/
def write (keys : List (String × Plain)) (sections : List Section) : String :=
  "\n".intercalate ((if keys.isEmpty then [] else [writeKeys keys]) ++ sections.map Section.write)

end AccessReport.Toml
