import AccessReport.Guidance.Link
import AccessReport.Sketch.Basic
import AccessReport.Variety.Basic
/-!
# Varieties of scans

Scans that are made up at random (`arb_engine_scan_result`, `arb_scan_results`). The ids of rules
come from a small pool, so that they occur in several buckets, and messages often from a pool in
which some are usually suppressed.
-/
namespace AccessReport.Varieties

open Pattern Variety

def maxRules : Nat := 5

def maxTargets : Nat := 3

/-- Ids of rules, some of which the built-in configuration knows. -/
def ruleIds : List String := [
  "image-alt", "image-function", "link-name", "link-purpose", "color-contrast", "region",
  "heading-order", "label", "custom-rule", "engine-only-rule"]

def pooledMessages : List String := [
  "Element has an alt attribute", "Element does not have an alt attribute", "Fix this",
  "  ELEMENT IS HIDDEN  ", "element is hidden", ""]

def imageTypes : List String := ["decorative", "informative", "functional"]

def ruleId : Variety := ofTexts ruleIds

def message : Variety := anyOf [ofTexts pooledMessages, text (prose 0 40)]

/-- What an engine finds out: nothing, a contrast, or facts about a link or an image
(`arb_check_data`). -/
def checkData : Variety := anyOf [
  exactly .null,
  record [
    certain "contrastRatio" number,
    certain "fgColor" (exactly (.string "#777777")),
    certain "bgColor" (exactly (.string "#ffffff"))],
  record [
    certain "accessibleName" (text (prose 0 12)),
    certain "url" (text (sequence [.exactly "https://", word 1 8, .exactly ".com/"]))],
  record [certain "imageType" (ofTexts imageTypes)]]

def check : Variety := record [
  certain "id" (text (sequence [word 2 8, possibly [.exactly "-", word 2 8]])),
  certain "message" message,
  certain "data" checkData,
  certain "result" flag]

def checks : Variety := listOf 0 Sketch.maxChecks check

/-- One segment of a selector: up to three elements, one inside the other. -/
def segment : Pattern := sequence [
  word 1 6,
  repeated 0 2 (sequence [.exactly " > ", word 1 6, possibly [.exactly ".", word 1 4]])]

def target : Variety := listOf 1 maxTargets (text segment)

def node : Variety := record [
  certain "target" target,
  certain "html" (text (sequence [.exactly "<", word 1 6, .exactly ">"])),
  possible "snippet" (text (prose 1 20)),
  possible "failureSummary" (ofTexts ["Fix any of the following", "Fix all of the following"]),
  certain "any" checks,
  certain "all" checks,
  certain "none" checks]

def ruleFields : List (String × Bool × Variety) := [
  certain "id" ruleId,
  certain "description" (text (prose 0 30)),
  certain "help" (text (prose 0 30)),
  certain "helpUrl" (text (sequence [.exactly "https://engine.test/", word 1 10])),
  certain "nodes" (listOf 0 Sketch.maxNodes node)]

def rule : Variety := record ruleFields

def rules : Variety := listOf 0 maxRules rule

def timestampText : Json := .string "2024-05-01T12:00:00.000Z"

def timestamp : Variety := anyOf [number, exactly timestampText]

/-- The fields of the four buckets. -/
def bucketFields (rules : Variety) : List (String × Bool × Variety) :=
  Bucket.all.map fun bucket => certain bucket.name rules

def engineScan : Variety := record (
  bucketFields rules ++ [
    certain "timestamp" timestamp,
    certain "url" (text (sequence [.exactly "https://", word 1 8, .exactly ".example/"]))])

/-- A rule of which some refer to good practice. -/
def decoratedRule : Variety := record (
  ruleFields ++ [possible "guidanceLinks" (exactly (.array [GuidanceLink.bestPractice.toJson]))])

def scanResults : Variety := record (
  bucketFields (listOf 0 maxRules decoratedRule) ++ [
    certain "timestamp" (exactly timestampText),
    certain "targetPageUrl" (exactly (.string "https://page.example/")),
    certain "targetPageTitle" (text (prose 0 20))])

end AccessReport.Varieties
