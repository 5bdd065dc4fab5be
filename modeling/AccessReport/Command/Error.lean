import AccessReport.Config.Loading
import AccessReport.Report
/-!
# Why commands fail
-/
namespace AccessReport

inductive CommandError where
  | config (cause : ConfigError)
  | report (cause : ReportError)
  | inputUnreadable (path : String) (cause : FileFault)
  | standardInputUnreadable (cause : FileFault)
  | selectionUnreadable (path : String) (cause : FileFault)
  | selectionUnparsable (path : String)
  | noConfigFile
  | unknownRule (ruleId : String) (suggestions : List String)
  | directoryUncreatable (path : String) (cause : FileFault)
  | unwritable (path : String) (cause : FileFault)
deriving DecidableEq, Repr

namespace CommandError

/-- What is said about a rule that is not configured. -/
def unknownRuleMessage (ruleId : String) (suggestions : List String) : String :=
  s!"Rule '{ruleId}' not found."
    ++ (if suggestions.isEmpty then ""
      else "\n\nDid you mean one of these?\n"
        ++ String.join (suggestions.map fun id => s!"  - {id}\n"))
    ++ "\nUse 'a11ylens rules' to list all configured rules."

def message : CommandError → String
  | config cause => cause.message
  | report cause => cause.message
  | inputUnreadable path _ => s!"read input {path}"
  | standardInputUnreadable _ => "read engine scan result from stdin"
  | selectionUnreadable path _ => s!"read selection {path}"
  | selectionUnparsable path => s!"parse selection {path}"
  | noConfigFile =>
    s!"No configuration file found. Specify --config or create {ConfigSource.defaultFile}"
  | unknownRule ruleId suggestions => unknownRuleMessage ruleId suggestions
  | directoryUncreatable path _ => s!"create dir {path}"
  | unwritable path _ => s!"write {path}"

/-- The messages of what caused the error, outermost first. -/
def causes : CommandError → List String
  | config cause => cause.chain.tail
  | report cause => cause.chain.tail
  | inputUnreadable _ cause | standardInputUnreadable cause | selectionUnreadable _ cause
  | directoryUncreatable _ cause | unwritable _ cause => [cause.message]
  | selectionUnparsable _ => ["the text is not the JSON of a selection"]
  | noConfigFile | unknownRule _ _ => []

def chain (error : CommandError) : List String := error.message :: error.causes

end CommandError

/-! ## Errors as texts to read -/

namespace ErrorText

open Text

/-- A text with the lines after the first one set in. -/
def indentMore (indent : String) (text : String) : String :=
  String.ofList (joinWith ('\n' :: indent.toList) (splitAt '\n' text.toList))

/-- The cause with its number, set in by five places. -/
def numbered (number : Nat) (cause : String) : String :=
  let digits := toString number
  String.ofList (List.replicate (5 - digits.length) ' ') ++ digits ++ ": "
    ++ indentMore "       " cause

/-- The causes with numbers from the given one on. -/
def numberedFrom : Nat → List String → List String
  | _, [] => []
  | number, cause :: rest => numbered number cause :: numberedFrom (number + 1) rest

/-- The lines of the causes: a single one without a number. -/
def causeLines : List String → List String
  | [] => []
  | [cause] => ["    " ++ indentMore "    " cause]
  | causes => numberedFrom 0 causes

/-- An error with its causes below it. -/
def ofChain (message : String) (causes : List String) : String :=
  if causes.isEmpty then message
  else message ++ "\n\nCaused by:\n" ++ "\n".intercalate (causeLines causes)

end ErrorText
end AccessReport
