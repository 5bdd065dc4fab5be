import AccessReport.Guidance.Link
/-!
# Scans

A scanning engine evaluates rules on a page. Every rule ends in one of four buckets, with the
nodes (elements of the page) that it was evaluated on; every node carries the checks that were
made on it, in three groups: of the `any` checks one has to hold, of the `all` checks every one,
of the `none` checks not one.

`EngineScan` is what an engine hands over, `ScanResults` the same after decoration.

Results:
* `get_map`: what is done to all buckets is done to each.
-/
namespace AccessReport

/-- One check that was made on a node. -/
structure Check where
  id : String
  message : String := ""
  data : Json := .null
  result : Bool := false
deriving Repr

/-- One element of the page that a rule was evaluated on. -/
structure Node where
  /-- Selector path segments, one for every frame or shadow boundary. -/
  target : List String := []
  html : String := ""
  snippet : Option String := none
  failureSummary : Option String := none
  anyChecks : List Check := []
  allChecks : List Check := []
  noneChecks : List Check := []
deriving Repr

namespace Node

/-- All checks of the node, group by group. -/
def checks (node : Node) : List Check :=
  node.anyChecks ++ node.allChecks ++ node.noneChecks

def checkCount (node : Node) : Nat :=
  node.anyChecks.length + node.allChecks.length + node.noneChecks.length

def isEmpty (node : Node) : Bool := node.checkCount == 0

/-- What is shown of the node: its snippet, else its markup (`display_snippet`). -/
def displaySnippet (node : Node) : String := node.snippet.getD node.html

theorem checks_length (node : Node) : node.checks.length = node.checkCount := by
  simp [checks, checkCount, Nat.add_assoc]

end Node

/-- The outcome of one rule in one bucket. -/
structure RuleResult where
  id : String
  description : String := ""
  help : String := ""
  helpUrl : String := ""
  nodes : List Node := []
  /-- Without guidance, which is no error, there is no list. -/
  guidanceLinks : Option (List GuidanceLink) := none
deriving Repr

/-- The time of a scan: milliseconds since 1970, or a text that is already formatted. -/
inductive Timestamp where
  | epochMillis (milliseconds : Int)
  | text (formatted : String)
deriving DecidableEq, Repr

inductive Bucket where
  | passes
  | violations
  | incomplete
  | inapplicable
deriving DecidableEq, Repr

namespace Bucket

/-- The buckets in the order in which they are walked. -/
def all : List Bucket := [.passes, .violations, .incomplete, .inapplicable]

def name : Bucket → String
  | .passes => "passes"
  | .violations => "violations"
  | .incomplete => "incomplete"
  | .inapplicable => "inapplicable"

def named : List (String × Bucket) := all.map fun bucket => (bucket.name, bucket)

end Bucket

/-- The rule results of the four buckets. -/
structure Buckets where
  passes : List RuleResult := []
  violations : List RuleResult := []
  incomplete : List RuleResult := []
  inapplicable : List RuleResult := []
deriving Repr

namespace Buckets

def get (buckets : Buckets) : Bucket → List RuleResult
  | .passes => buckets.passes
  | .violations => buckets.violations
  | .incomplete => buckets.incomplete
  | .inapplicable => buckets.inapplicable

/-- Every bucket made from its old rule results. -/
def map (change : Bucket → List RuleResult → List RuleResult) (buckets : Buckets) : Buckets where
  passes := change .passes buckets.passes
  violations := change .violations buckets.violations
  incomplete := change .incomplete buckets.incomplete
  inapplicable := change .inapplicable buckets.inapplicable

/-- The buckets with one more rule result at the end of one of them. -/
def push (buckets : Buckets) (bucket : Bucket) (rule : RuleResult) : Buckets :=
  buckets.map fun other rules => if other = bucket then rules ++ [rule] else rules

/-- All rule results, bucket by bucket. -/
def walk (buckets : Buckets) : List RuleResult :=
  Bucket.all.flatMap buckets.get

/-- The number of rule results in each bucket. -/
def lengths (buckets : Buckets) : List Nat :=
  Bucket.all.map fun bucket => (buckets.get bucket).length

theorem get_map (change : Bucket → List RuleResult → List RuleResult) (buckets : Buckets)
    (bucket : Bucket) : (buckets.map change).get bucket = change bucket (buckets.get bucket) := by
  cases bucket <;> rfl

end Buckets

/-- The raw output of a scanning engine. -/
structure EngineScan extends Buckets where
  timestamp : Timestamp := .text ""
  url : String := ""
deriving Repr

/-- The decorated results of one scan. -/
structure ScanResults extends Buckets where
  timestamp : String := ""
  targetPageUrl : String := ""
  targetPageTitle : String := ""
deriving Repr

end AccessReport
