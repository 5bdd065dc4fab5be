import AccessReport.Text.HiddenTable
/-!
# Texts with everything revealed

A text in quotes as it is shown to people who have to see what exactly is in it: quotes and
backslashes get a backslash, and what does not show is written by name or by number.
-/
namespace AccessReport.Text

/-- Whether a character does not show. -/
def isHidden (c : Char) : Bool :=
  c.toNat < 0x20 || HiddenTable.runs.any fun run => run.1 ≤ c.toNat && c.toNat ≤ run.2

/-- The characters of one character that is shown inside quotes. -/
def revealedChar (c : Char) : List Char :=
  match c with
  | '\x00' => ['\\', '0']
  | '\t' => ['\\', 't']
  | '\r' => ['\\', 'r']
  | '\n' => ['\\', 'n']
  | '\\' => ['\\', '\\']
  | '"' => ['\\', '"']
  | c => if isHidden c then ['\\', 'u', '\x7b'] ++ Nat.toDigits 16 c.toNat ++ ['\x7d'] else [c]

def revealedInside (cs : List Char) : List Char := cs.flatMap revealedChar

/-- A text in quotes. -/
def revealed (text : String) : String :=
  String.ofList ('"' :: revealedInside text.toList ++ ['"'])

/-- Several texts in brackets. -/
def revealedList (texts : List String) : String :=
  "[" ++ ", ".intercalate (texts.map revealed) ++ "]"

end AccessReport.Text
