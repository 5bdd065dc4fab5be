import AccessReport.Sketch.Basic
/-!
# Sketching call by call

A sketch need not be at hand as lists of steps. It can be made call by call: a rule is started, gets
its steps and is done, and so is a node inside a rule. Only what is done gets its place, a node in
its rule and a rule in its bucket. At each stage there are calls that can be made, and no others.
-/
namespace AccessReport.Sketch

/-- What is being made: the scan, a rule of it, or a node of that rule. -/
inductive Stage where
  | scan
  | rule
  | node
deriving DecidableEq, Repr

/-- A rule that is not done, beside the scan and the bucket that it goes to. -/
structure OpenRule where
  scan : EngineScan
  bucket : Bucket
  rule : RuleResult

/-- What there is at a stage. -/
def Stage.Draft : Stage → Type
  | scan => EngineScan
  | rule => OpenRule
  | node => OpenRule × OpenNode

/-- A call, from the stage at which it can be made to the one it leads to. A step of a scan may be a
whole rule that was made apart, and a step of a rule a whole node. -/
inductive Call : Stage → Stage → Type where
  | scanStep (step : Step) : Call .scan .scan
  | startRule (bucket : Bucket) (id : String) : Call .scan .rule
  | ruleStep (step : RuleStep) : Call .rule .rule
  | startNode (target : List String) : Call .rule .node
  | nodeStep (step : NodeStep) : Call .node .node
  | nodeDone : Call .node .rule
  | ruleDone : Call .rule .scan

def Call.run {earlier later : Stage} : Call earlier later → earlier.Draft → Except Fault later.Draft
  | .scanStep step, scan => Sketch.step scan step
  | .startRule bucket id, scan => .ok { scan, bucket, rule := ruleOfId id }
  | .ruleStep step, draft => do pure { draft with rule := ← Sketch.ruleStep draft.rule step }
  | .startNode target, draft => .ok (draft, .ofTarget target)
  | .nodeStep step, (draft, node) => do pure (draft, ← node.step step)
  | .nodeDone, (draft, node) => do pure { draft with rule := ← addNode draft.rule node.node }
  | .ruleDone, draft =>
    .ok { draft.scan with toBuckets := draft.scan.toBuckets.push draft.bucket draft.rule }

/-- Calls one after the other, from a new sketch on. -/
inductive Calls : Stage → Type where
  | new : Calls .scan
  | call {earlier later : Stage} (calls : Calls earlier) (last : Call earlier later) : Calls later

def Calls.run {stage : Stage} : Calls stage → Except Fault stage.Draft
  | .new => .ok ({} : EngineScan)
  | .call calls last => do last.run (← calls.run)

end AccessReport.Sketch
