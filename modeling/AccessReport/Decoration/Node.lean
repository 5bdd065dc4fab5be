import AccessReport.Registry.Rules
import AccessReport.Scan.Basic
import AccessReport.Text.Blank
/-!
# Decorating nodes

Two things are added to a node: the configured messages of its checks, and a snippet made up from
the data of its checks where the engine gave none.

Results:
* `decorate_snippet`: a snippet that is there is never changed.
-/
namespace AccessReport

open Text

namespace Check

/-- The message that the rule configures for the check's own outcome and data. -/
def configuredMessage? (rule : Option CompiledRule) (check : Check) : Option String :=
  (rule.bind (·.check? check.id)).bind (·.message? check.result check.data)

/-- The check with its configured message; without one the engine's stays. -/
def withMessage (rule : Option CompiledRule) (check : Check) : Check :=
  { check with message := (check.configuredMessage? rule).getD check.message }

end Check

namespace Node

/-- The node with the configured messages of its checks (`add_messages_to_checks`). -/
def withMessages (rule : Option CompiledRule) (node : Node) : Node :=
  { node with
    anyChecks := node.anyChecks.map (Check.withMessage rule)
    allChecks := node.allChecks.map (Check.withMessage rule)
    noneChecks := node.noneChecks.map (Check.withMessage rule) }

/-- What stands for a fact that no check collected. -/
def notAvailable : String := "N/A"

/-- A collected value as a fact: a text that is not blank, a number or a truth value. -/
def fact? : Json → Option String
  | .string text => if (trim text).isEmpty then none else some text
  | .number value => some (String.ofList value.text)
  | .bool true => some "true"
  | .bool false => some "false"
  | _ => none

/-- The first fact under a name in the data of the node's checks (`data_field`). -/
def dataField (node : Node) (field : String) : String :=
  (node.checks.findSome? fun check => (check.data.get? field).bind fact?).getD notAvailable

/-- The snippet that a decorator makes up. -/
def summary (node : Node) : NodeDecorator → String
  | .linkSummary =>
    "Link name: " ++ node.dataField "accessibleName" ++ "\nLink URL: " ++ node.dataField "url"
  | .imageSummary =>
    "Image type: " ++ node.dataField "imageType"
      ++ "\nAccessible name: " ++ node.dataField "accessibleName"

/-- The node with a snippet (`decorate_node`). -/
def decorate (decorator : NodeDecorator) (node : Node) : Node :=
  { node with snippet := some (node.snippet.getD (node.summary decorator)) }

theorem decorate_snippet (decorator : NodeDecorator) (node : Node) (snippet : String)
    (h : node.snippet = some snippet) : node.decorate decorator = node := by
  cases node
  simp_all [decorate]

end Node
end AccessReport
