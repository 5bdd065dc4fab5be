import AccessReport.Scan.Basic
import AccessReport.Text.Blank
import AccessReport.Text.Lowercase
/-!
# Suppressed messages

Messages that are known to be noise. A check with such a message is dropped if it is an `any`
check, then every node left without checks; a rule left without nodes is dropped only where that
is asked for. Messages are compared whole, without the blanks around them and without regard to
case.

Results:
* `suppress_keep`: where emptied rules are kept, every rule is kept.
-/
namespace AccessReport

open Text

/-- Suppressed messages in the form in which they are compared, without repetitions. -/
structure SuppressionList where
  messages : List String
deriving DecidableEq, Repr

namespace SuppressionList

/-- The form in which messages are compared (`normalize`). -/
def normalize (message : String) : String := lowercase (trim message)

/-- The list with more messages. -/
def extend (suppressed : SuppressionList) (messages : List String) : SuppressionList :=
  ⟨messages.foldl (fun held message => held.insert (normalize message)) suppressed.messages⟩

def ofMessages (messages : List String) : SuppressionList := extend ⟨[]⟩ messages

/-- The messages that are dropped from every scan: none. -/
def builtIn : SuppressionList := ofMessages []

/-- The built-in messages and others (`with_additional`). -/
def withAdditional (messages : List String) : SuppressionList := builtIn.extend messages

def size (suppressed : SuppressionList) : Nat := suppressed.messages.length

def isEmpty (suppressed : SuppressionList) : Bool := suppressed.messages.isEmpty

/-- Whether a message is on the list in the form in which they are compared (`is_suppressed`). -/
def isSuppressed (suppressed : SuppressionList) (message : String) : Bool :=
  suppressed.messages.contains (normalize message)

/-- The node without the suppressed `any` checks (`filter_node`). -/
def filterNode (suppressed : SuppressionList) (node : Node) : Node :=
  { node with
    anyChecks := node.anyChecks.filter fun check => !suppressed.isSuppressed check.message }

/-- The nodes that still have a check. -/
def keptNodes (suppressed : SuppressionList) (nodes : List Node) : List Node :=
  (nodes.map suppressed.filterNode).filter fun node => !node.isEmpty

/-- The rule with the nodes that still have a check; nothing if there are none and emptied rules are
removed (`suppress`). -/
def suppress (suppressed : SuppressionList) (rule : RuleResult) (removeEmpty : Bool) :
    Option RuleResult :=
  let nodes := suppressed.keptNodes rule.nodes
  if removeEmpty && nodes.isEmpty then none else some { rule with nodes }

theorem suppress_keep (suppressed : SuppressionList) (rule : RuleResult) :
    (suppressed.suppress rule false).isSome = true := by
  simp [suppress]

end SuppressionList
end AccessReport
