import AccessReport.Scan.Basic
/-!
# Sketches of scans

A scan that is written down in few steps, for trying things out. What a step does not say has a
value all the same: a rule is described by its id, and the markup of a node is made from its
selector. A sketch stays small: a rule has few nodes, and a node has few checks in each group.
-/
namespace AccessReport

/-- The three groups of checks on a node. -/
inductive CheckGroup where
  | any
  | all
  | none
deriving DecidableEq, Repr

namespace Node

def group (node : Node) : CheckGroup → List Check
  | .any => node.anyChecks
  | .all => node.allChecks
  | .none => node.noneChecks

def modifyGroup (node : Node) (group : CheckGroup) (change : List Check → List Check) : Node :=
  match group with
  | .any => { node with anyChecks := change node.anyChecks }
  | .all => { node with allChecks := change node.allChecks }
  | .none => { node with noneChecks := change node.noneChecks }

end Node

namespace Sketch

/-- The most nodes of a rule. -/
def maxNodes : Nat := 4

/-- The most checks in a group of a node. -/
def maxChecks : Nat := 3

/-- Why steps make no scan. -/
inductive Fault where
  | tooManyNodes
  | tooManyChecks
  | dataWithoutCheck
deriving DecidableEq, Repr

def Fault.message : Fault → String
  | tooManyNodes => s!"Cannot add more than {maxNodes} nodes to a rule"
  | tooManyChecks => s!"Cannot add more than {maxChecks} checks to a group"
  | dataWithoutCheck => "data() called before any check"

inductive NodeStep where
  | html (text : String)
  | snippet (text : String)
  | failureSummary (text : String)
  | check (group : CheckGroup) (id message : String) (result : Bool)
  /-- The data of the check that was added last. -/
  | data (value : Json)

inductive RuleStep where
  | description (text : String)
  | help (text : String)
  | helpUrl (text : String)
  | node (target : List String) (steps : List NodeStep)

inductive Step where
  | url (text : String)
  | timestamp (value : Timestamp)
  | rule (bucket : Bucket) (id : String) (steps : List RuleStep)

/-! ## Nodes -/

/-- A node with the group that the last check went to. -/
structure OpenNode where
  node : Node
  latest : Option CheckGroup := none

namespace OpenNode

def ofTarget (target : List String) : OpenNode where
  node := { target, html := "<" ++ target.getLastD "div" ++ ">" }

/-- The checks with data for the last one (`data`). -/
def attach (data : Json) : List Check → List Check
  | [] => []
  | [check] => [{ check with data }]
  | check :: rest => check :: attach data rest

/-- The checks with one more at the end, if there is room (`push`). -/
def addCheck (draft : OpenNode) (group : CheckGroup) (check : Check) : Except Fault OpenNode :=
  if (draft.node.group group).length < maxChecks then
    .ok { node := draft.node.modifyGroup group (· ++ [check]), latest := some group }
  else .error .tooManyChecks

def step (draft : OpenNode) : NodeStep → Except Fault OpenNode
  | .html text => .ok { draft with node := { draft.node with html := text } }
  | .snippet text => .ok { draft with node := { draft.node with snippet := some text } }
  | .failureSummary text =>
    .ok { draft with node := { draft.node with failureSummary := some text } }
  | .check group id message result => draft.addCheck group { id, message, result }
  | .data value => match draft.latest with
    | some group => .ok { draft with node := draft.node.modifyGroup group (attach value) }
    | none => .error .dataWithoutCheck

end OpenNode

/-- The node that steps make. -/
def node (target : List String) (steps : List NodeStep) : Except Fault Node :=
  (steps.foldlM OpenNode.step (.ofTarget target)).map (·.node)

/-! ## Rules -/

/-- A rule of which only the id is known. -/
def ruleOfId (id : String) : RuleResult where
  id := id
  description := s!"Engine description of {id}"
  help := s!"Engine help for {id}"
  helpUrl := s!"https://engine.test/rules/{id}"

def addNode (rule : RuleResult) (node : Node) : Except Fault RuleResult :=
  if rule.nodes.length < maxNodes then .ok { rule with nodes := rule.nodes ++ [node] }
  else .error .tooManyNodes

def ruleStep (rule : RuleResult) : RuleStep → Except Fault RuleResult
  | .description text => .ok { rule with description := text }
  | .help text => .ok { rule with help := text }
  | .helpUrl text => .ok { rule with helpUrl := text }
  | .node target steps => do addNode rule (← node target steps)

/-- The rule that steps make. -/
def rule (id : String) (steps : List RuleStep) : Except Fault RuleResult :=
  steps.foldlM ruleStep (ruleOfId id)

/-! ## Scans -/

def step (scan : EngineScan) : Step → Except Fault EngineScan
  | .url text => .ok { scan with url := text }
  | .timestamp value => .ok { scan with timestamp := value }
  | .rule bucket id steps => do
    pure { scan with toBuckets := scan.toBuckets.push bucket (← rule id steps) }

/-- The scan that steps make (`build`). -/
def scan (steps : List Step) : Except Fault EngineScan := steps.foldlM step {}

end Sketch
end AccessReport
