import AccessReport.Config.BuiltIn
import AccessReport.Config.Format
import AccessReport.Variety.Scans
/-!
# Varieties of configurations

Configurations that are made up at random (`arb_config_file`), with the built-in catalog of links,
to which all guidance in them refers.
-/
namespace AccessReport.Varieties

open Pattern Variety

def nodeDecorator : Variety := ofTexts (NodeDecorator.all.map (·.name))

/-- A message with placeholders, some of which lead nowhere (`arb_template`). -/
def templatePattern : Pattern := repeated 0 4 (either [
  prose 1 12,
  .exactly "\x7bdata\x7d",
  .exactly "\x7bdata.accessibleName\x7d",
  .exactly "\x7bdata.contrastRatio\x7d",
  .exactly "\x7bdata.missing.path\x7d"])

def template : Variety := text templatePattern

def checkConfig : Variety := record [
  certain "id" (text (word 2 8)),
  possible "pass_message" template,
  possible "fail_message" template]

def linkIds : List String := BuiltIn.config.links.map (·.id)

/-- A rule with an id (`arb_rule_config`). -/
def ruleConfig (id : String) : Variety := record [
  certain "id" (exactly (.string id)),
  possible "description" (text (prose 1 30)),
  possible "help" (text (prose 1 30)),
  possible "help_url" (text (sequence [.exactly "https://custom.test/", word 1 8])),
  possible "decorate_node" nodeDecorator,
  certain "how_to_check" flag,
  possible "guidance" (listOf 1 3 (ofTexts linkIds)),
  certain "best_practice" flag,
  possible "check" (listOf 1 3 checkConfig)]

def config : Variety := record [
  certain "defaults" (exactly (.object [])),
  certain "rule" (listOf 0 ruleIds.length (anyOf (ruleIds.map ruleConfig))),
  certain "link" (exactly (.array (BuiltIn.config.links.map LinkConfig.toJson))),
  certain "suppression" (exactly (.object []))]

end AccessReport.Varieties
