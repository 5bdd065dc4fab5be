import AccessReport.Config.Basic
/-!
# Drafts of configurations

A draft holds the parts of a configuration with any texts at all, and is written as TOML in the
plainest way: every text between quotes on one line. Control characters that have no short escape
are left out, so that no text can end its quotes or its line.
-/
namespace AccessReport

structure DraftLink where
  id : String := ""
  text : String := ""
  href : String := ""
deriving DecidableEq, Repr

structure DraftCheck where
  id : String := ""
  passMessage : Option String := none
  failMessage : Option String := none
deriving DecidableEq, Repr

structure DraftRule where
  id : String := ""
  help : Option String := none
  /-- An even number stands for links, an odd one for images. -/
  decorator : Option UInt8 := none
  howToCheck : Bool := false
  bestPractice : Bool := false
  guidance : List String := []
  checks : List DraftCheck := []
deriving DecidableEq, Repr

structure Draft where
  title : Option String := none
  links : List DraftLink := []
  rules : List DraftRule := []
  suppressed : List String := []
deriving DecidableEq, Repr

namespace Draft

/-! ## Texts -/

def isControl (c : Char) : Bool := c.toNat < 0x20 || (0x7F ≤ c.toNat && c.toNat < 0xA0)

/-- One character as it stands between quotes (`escape_toml_string`). -/
def escaped (c : Char) : List Char :=
  match c with
  | '"' => ['\\', '"']
  | '\\' => ['\\', '\\']
  | '\n' => ['\\', 'n']
  | '\r' => ['\\', 'r']
  | '\t' => ['\\', 't']
  | c => if isControl c then [] else [c]

def quoted (text : String) : String :=
  String.ofList ('"' :: text.toList.flatMap escaped ++ ['"'])

/-! ## Lines -/

def textLine (key value : String) : String := key ++ " = " ++ quoted value

def flagLine (key : String) (value : Bool) : String :=
  key ++ " = " ++ if value then "true" else "false"

def textsLine (key : String) (values : List String) : String :=
  key ++ " = [" ++ ", ".intercalate (values.map quoted) ++ "]"

def textsLineIfAny (key : String) (values : List String) : List String :=
  if values.isEmpty then [] else [textsLine key values]

def decoratorOf (number : UInt8) : NodeDecorator :=
  if number % 2 = 0 then .linkSummary else .imageSummary

def linkLines (link : DraftLink) : List String :=
  ["", "[[link]]", textLine "id" link.id, textLine "text" link.text, textLine "href" link.href]

def checkLines (check : DraftCheck) : List String :=
  ["", "[[rule.check]]", textLine "id" check.id]
    ++ (check.passMessage.map (textLine "pass_message")).toList
    ++ (check.failMessage.map (textLine "fail_message")).toList

def ruleLines (rule : DraftRule) : List String :=
  ["", "[[rule]]", textLine "id" rule.id]
    ++ (rule.help.map (textLine "help")).toList
    ++ (rule.decorator.map fun number =>
      textLine "decorate_node" (decoratorOf number).name).toList
    ++ [flagLine "how_to_check" rule.howToCheck, flagLine "best_practice" rule.bestPractice]
    ++ textsLineIfAny "guidance" rule.guidance
    ++ rule.checks.flatMap checkLines

def titleLines : Option String → List String
  | some title => ["[defaults]", textLine "title" title]
  | none => []

def suppressionLines (messages : List String) : List String :=
  if messages.isEmpty then [] else ["", "[suppression]", textsLine "messages" messages]

def lines (draft : Draft) : List String :=
  titleLines draft.title
    ++ draft.links.flatMap linkLines
    ++ draft.rules.flatMap ruleLines
    ++ suppressionLines draft.suppressed

/-- The draft as a TOML text (`to_toml_string`). -/
def toToml (draft : Draft) : String := String.join (draft.lines.map (· ++ "\n"))

end Draft
end AccessReport
