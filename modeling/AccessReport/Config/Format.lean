import AccessReport.Config.Basic
import AccessReport.Unified.Format
/-!
# The format of configurations

The same records are read from TOML and from JSON. The two formats differ in what they accept as
the payload of a name that needs none, so the readers take that as an argument.
-/
namespace AccessReport

open Document Json

def NodeDecorator.ofDocument? (empty : Payload) : Document → Option NodeDecorator :=
  choice? empty NodeDecorator.named

def Defaults.ofDocument? (empty : Payload) (document : Document) : Option Defaults := do
  let fields ← document.record? ["title", "mode"]
  pure {
    title := ← fields.optional "title" text?
    mode := ← fields.optional "mode" (ConversionMode.ofDocument? empty) }

def Defaults.toJson (defaults : Defaults) : Json :=
  .object (
    memberIfSome "title" .string defaults.title
    ++ memberIfSome "mode" (fun mode => .string mode.name) defaults.mode)

def CheckConfig.ofDocument? (document : Document) : Option CheckConfig := do
  let fields ← document.record? ["id", "pass_message", "fail_message"]
  pure {
    id := ← fields.required "id" text?
    passMessage := ← fields.optional "pass_message" text?
    failMessage := ← fields.optional "fail_message" text? }

def CheckConfig.toJson (check : CheckConfig) : Json :=
  .object (
    member "id" (.string check.id)
    ++ memberIfSome "pass_message" .string check.passMessage
    ++ memberIfSome "fail_message" .string check.failMessage)

def RuleConfig.ofDocument? (empty : Payload) (document : Document) : Option RuleConfig := do
  let fields ← document.record?
    ["id", "description", "help", "help_url", "decorate_node", "how_to_check", "guidance",
      "best_practice", "check"]
  pure {
    id := ← fields.required "id" text?
    description := ← fields.optional "description" text?
    help := ← fields.optional "help" text?
    helpUrl := ← fields.optional "help_url" text?
    decorator := ← fields.optional "decorate_node" (NodeDecorator.ofDocument? empty)
    howToCheck := ← fields.defaulted "how_to_check" flag? false
    guidance := ← fields.defaulted "guidance" (list? text?) []
    bestPractice := ← fields.defaulted "best_practice" flag? false
    checks := ← fields.defaulted "check" (list? CheckConfig.ofDocument?) [] }

def RuleConfig.toJson (rule : RuleConfig) : Json :=
  .object (
    member "id" (.string rule.id)
    ++ memberIfSome "description" .string rule.description
    ++ memberIfSome "help" .string rule.help
    ++ memberIfSome "help_url" .string rule.helpUrl
    ++ memberIfSome "decorate_node" (fun decorator => .string decorator.name) rule.decorator
    ++ member "how_to_check" (.bool rule.howToCheck)
    ++ memberIfAny "guidance" .string rule.guidance
    ++ member "best_practice" (.bool rule.bestPractice)
    ++ memberIfAny "check" CheckConfig.toJson rule.checks)

def LinkTagConfig.ofDocument? (document : Document) : Option LinkTagConfig := do
  let fields ← document.record? ["id", "display_text"]
  pure {
    id := ← fields.required "id" text?
    displayText := ← fields.required "display_text" text? }

def LinkTagConfig.toJson (tag : LinkTagConfig) : Json :=
  .object [("id", .string tag.id), ("display_text", .string tag.displayText)]

def LinkConfig.ofDocument? (document : Document) : Option LinkConfig := do
  let fields ← document.record? ["id", "text", "href", "tags"]
  pure {
    id := ← fields.required "id" text?
    text := ← fields.required "text" text?
    href := ← fields.required "href" text?
    tags := ← fields.defaulted "tags" (list? LinkTagConfig.ofDocument?) [] }

def LinkConfig.toJson (link : LinkConfig) : Json :=
  .object (
    member "id" (.string link.id)
    ++ member "text" (.string link.text)
    ++ member "href" (.string link.href)
    ++ memberIfAny "tags" LinkTagConfig.toJson link.tags)

def SuppressionConfig.ofDocument? (document : Document) : Option SuppressionConfig := do
  let fields ← document.record? ["messages"]
  pure { messages := ← fields.defaulted "messages" (list? text?) [] }

def SuppressionConfig.toJson (suppression : SuppressionConfig) : Json :=
  .object (memberIfAny "messages" .string suppression.messages)

def Config.ofDocument? (empty : Payload) (document : Document) : Option Config := do
  let fields ← document.record? ["includes", "defaults", "rule", "link", "suppression"]
  pure {
    includes := ← fields.defaulted "includes" (list? text?) []
    defaults := ← fields.defaulted "defaults" (Defaults.ofDocument? empty) {}
    rules := ← fields.defaulted "rule" (list? (RuleConfig.ofDocument? empty)) []
    links := ← fields.defaulted "link" (list? LinkConfig.ofDocument?) []
    suppression := ← fields.defaulted "suppression" SuppressionConfig.ofDocument? {} }

def Config.toJson (config : Config) : Json :=
  .object (
    memberIfAny "includes" .string config.includes
    ++ member "defaults" config.defaults.toJson
    ++ member "rule" (.array (config.rules.map RuleConfig.toJson))
    ++ member "link" (.array (config.links.map LinkConfig.toJson))
    ++ member "suppression" config.suppression.toJson)

end AccessReport
