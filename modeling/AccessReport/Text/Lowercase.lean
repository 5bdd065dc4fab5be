import AccessReport.Text.CaseTable
/-!
# Lowercase texts

The full Unicode lowercase mapping, without regard to language. It differs from the letter by
letter mapping in two places: `İ` becomes two characters, and a capital sigma at the end of a
word becomes `ς` instead of `σ`.

A sigma ends a word when, ignored characters left out, a cased letter stands before it and none
follows.
-/
namespace AccessReport.Text

open CaseTable

/-- Ignored when the case of the surroundings is looked for. -/
def isCaseIgnored (c : Char) : Bool :=
  inRanges ignoredRanges c.toNat

/-- A letter that has a case and is not ignored. -/
def isCased (c : Char) : Bool :=
  inRanges casedRanges c.toNat

/-- Whether the first character that is not ignored is cased. -/
def startsCased (cs : List Char) : Bool :=
  match cs.dropWhile isCaseIgnored with
  | [] => false
  | c :: _ => isCased c

/-- The lowercase letter of a capital; other characters stay. -/
def lowerLetter (c : Char) : Char :=
  if c.toNat < 128 then c.toLower
  else
    let code := c.toNat
    match lowercaseRuns.find? fun run =>
        run.first ≤ code && code ≤ run.last && (code - run.first) % run.step == 0 with
    | some run => Char.ofNat (code + run.shift).toNat
    | none => c

/-- The lowercase form of one character between the characters before it, nearest first, and
those after it. -/
def lowerAt (before : List Char) (c : Char) (after : List Char) : List Char :=
  if c = 'İ' then ['i', '\u0307']
  else if c = 'Σ' then [if startsCased before && !startsCased after then 'ς' else 'σ']
  else [lowerLetter c]

/-- The lowercase form of the characters that follow `before`, which is in reverse. -/
def lowerFrom (before : List Char) : List Char → List Char
  | [] => []
  | c :: after => lowerAt before c after ++ lowerFrom (c :: before) after

/-- The lowercase form of a text. -/
def lowercase (text : String) : String :=
  String.ofList (lowerFrom [] text.toList)

end AccessReport.Text
