import AccessReport.Unified.Basic
/-!
# Configurations

What a user can set: texts of rules and checks, the catalog of guidance links, messages that are
not worth reporting, defaults of a report, and other configuration files to include.
-/
namespace AccessReport

/-- How the snippet of a node is made up from the data of its checks. -/
inductive NodeDecorator where
  /-- From the accessible name and the address of a link. -/
  | linkSummary
  /-- From the type and the accessible name of an image. -/
  | imageSummary
deriving DecidableEq, Repr

namespace NodeDecorator

def all : List NodeDecorator := [.linkSummary, .imageSummary]

def name : NodeDecorator → String
  | .linkSummary => "link-summary"
  | .imageSummary => "image-summary"

def named : List (String × NodeDecorator) := all.map fun decorator => (decorator.name, decorator)

end NodeDecorator

/-- What a report uses where the caller gives nothing. -/
structure Defaults where
  title : Option String := none
  mode : Option ConversionMode := none
deriving DecidableEq, Repr

/-- The messages of a check, as templates. -/
structure CheckConfig where
  id : String
  passMessage : Option String := none
  failMessage : Option String := none
deriving DecidableEq, Repr

structure RuleConfig where
  id : String
  description : Option String := none
  help : Option String := none
  /-- Takes the place of the engine's address. -/
  helpUrl : Option String := none
  decorator : Option NodeDecorator := none
  /-- There are instructions for checking this rule by hand. -/
  howToCheck : Bool := false
  /-- Keys into the catalog of links. -/
  guidance : List String := []
  /-- The rule refers to the synthetic link "Best Practice" too. -/
  bestPractice : Bool := false
  checks : List CheckConfig := []
deriving DecidableEq, Repr

structure LinkTagConfig where
  id : String
  displayText : String
deriving DecidableEq, Repr

/-- An entry in the catalog of links. -/
structure LinkConfig where
  id : String
  text : String
  href : String
  tags : List LinkTagConfig := []
deriving DecidableEq, Repr

/-- Messages of `any` checks that are not reported. -/
structure SuppressionConfig where
  messages : List String := []
deriving DecidableEq, Repr

structure Config where
  /-- Other files, relative to the directory of this one. -/
  includes : List String := []
  defaults : Defaults := {}
  rules : List RuleConfig := []
  links : List LinkConfig := []
  suppression : SuppressionConfig := {}
deriving DecidableEq, Repr

namespace Config

/-- The title of a report: the given one, else the default, else none (`resolve_title`). -/
def titleFor (config : Config) (given : Option String) : String :=
  (given.or config.defaults.title).getD ""

/-- The mode of a report: for review if that is asked for, else the default (`resolve_mode`). -/
def modeFor (config : Config) (needsReview : Bool) : ConversionMode :=
  if needsReview then .needsReview else config.defaults.mode.getD .automated

end Config
end AccessReport
