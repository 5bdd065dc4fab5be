import AccessReport.Scan.Basic
/-!
# Unified rules and results

The model in which results of any engine are exported: rules, results that each concern one
element of the page, and an envelope around both that names the tool and the page.
-/
namespace AccessReport

/-- A rule as the export describes it. -/
structure UnifiedRule where
  id : String
  description : String
  url : String
  guidance : List GuidanceLink
deriving DecidableEq, Repr

inductive ResultStatus where
  | pass
  | fail
  | unknown
deriving DecidableEq, Repr

namespace ResultStatus

def all : List ResultStatus := [.pass, .fail, .unknown]

def name : ResultStatus → String
  | .pass => "pass"
  | .fail => "fail"
  | .unknown => "unknown"

def named : List (String × ResultStatus) := all.map fun status => (status.name, status)

end ResultStatus

/-- What an element is called. The concise name is for display; it is not unique. -/
structure Identifiers where
  identifier : String
  conciseName : String
  cssSelector : String
deriving DecidableEq, Repr

structure Descriptors where
  snippet : String
deriving DecidableEq, Repr

/-- The messages of the checks of an element, in the groups of the checks. -/
structure HowToFix where
  anyMessages : List String := []
  noneMessages : List String := []
  allMessages : List String := []
deriving DecidableEq, Repr

/-- What to do about a result. -/
structure Resolution where
  howToFix : Option HowToFix := none
  howToFixSummary : Option String := none
  /-- The rule whose instructions for a manual check apply. -/
  howToCheck : Option String := none
deriving DecidableEq, Repr

/-- The outcome of one rule on one element. -/
structure UnifiedResult where
  uid : String
  status : ResultStatus
  ruleId : String
  identifiers : Identifiers
  descriptors : Descriptors
  resolution : Resolution
deriving DecidableEq, Repr

structure ToolInfo where
  name : String
  version : String
deriving DecidableEq, Repr

structure TargetAppInfo where
  name : String
  url : String
deriving DecidableEq, Repr

/-- The export of one scan. -/
structure UnifiedScanResult where
  schema : String
  toolInfo : ToolInfo
  targetAppInfo : TargetAppInfo
  timestamp : String
  rules : List UnifiedRule
  results : List UnifiedResult
deriving DecidableEq, Repr

/-- Which results a conversion takes from a scan. -/
inductive ConversionMode where
  | automated
  | needsReview
deriving DecidableEq, Repr

namespace ConversionMode

def all : List ConversionMode := [.automated, .needsReview]

def name : ConversionMode → String
  | .automated => "automated"
  | .needsReview => "needs_review"

def named : List (String × ConversionMode) := all.map fun mode => (mode.name, mode)

end ConversionMode
end AccessReport
