import AccessReport.Config.Basic
import AccessReport.Registry.Error
/-!
# The registry of guidance

Which links belong to a rule: those of its keys, in the configured order, and behind them the
synthetic link "Best Practice" if the rule asks for it. A rule with neither has no entry.
-/
namespace AccessReport

/-- The links of rules, at most one entry for a rule. -/
structure GuidanceRegistry where
  entries : List (String × List GuidanceLink)
deriving DecidableEq, Repr

/-- The link of a catalog entry (`to_guidance_link`). Without tags it has no list of tags. -/
def LinkConfig.toGuidanceLink (link : LinkConfig) : GuidanceLink where
  text := link.text
  href := link.href
  tags := match link.tags with
    | [] => none
    | tags => some (tags.map fun tag => { id := tag.id, displayText := tag.displayText })

namespace GuidanceRegistry

def empty : GuidanceRegistry := ⟨[]⟩

/-- The links of a rule, if it has any (`links_for`). -/
def linksFor? (registry : GuidanceRegistry) (ruleId : String) : Option (List GuidanceLink) :=
  registry.entries.lookup ruleId

def size (registry : GuidanceRegistry) : Nat := registry.entries.length

def isEmpty (registry : GuidanceRegistry) : Bool := registry.entries.isEmpty

/-! ## Compilation -/

/-- The catalog with one more link. -/
def addLink (catalog : List (String × GuidanceLink)) (link : LinkConfig) :
    Except RegistryError (List (String × GuidanceLink)) :=
  if catalog.any (·.1 == link.id) then .error (.duplicateLink link.id)
  else .ok (catalog ++ [(link.id, link.toGuidanceLink)])

/-- The link that a key of a rule names. -/
def resolveKey (catalog : List (String × GuidanceLink)) (ruleId key : String) :
    Except RegistryError GuidanceLink :=
  match catalog.lookup key with
  | some link => .ok link
  | none => .error (.unknownLink ruleId key)

/-- All links of a rule. -/
def resolveRule (catalog : List (String × GuidanceLink)) (rule : RuleConfig) :
    Except RegistryError (List GuidanceLink) := do
  let links ← rule.guidance.mapM (resolveKey catalog rule.id)
  pure (links ++ if rule.bestPractice then [.bestPractice] else [])

/-- The entry of a rule, which takes the place of an earlier one for the same rule. -/
def putEntry (ruleId : String) (links : List GuidanceLink) :
    List (String × List GuidanceLink) → List (String × List GuidanceLink)
  | [] => [(ruleId, links)]
  | entry :: rest =>
    if entry.1 = ruleId then (ruleId, links) :: rest else entry :: putEntry ruleId links rest

/-- The entries with those of one more rule. -/
def addRule (catalog : List (String × GuidanceLink))
    (entries : List (String × List GuidanceLink)) (rule : RuleConfig) :
    Except RegistryError (List (String × List GuidanceLink)) := do
  match ← resolveRule catalog rule with
  | [] => pure entries
  | links => pure (putEntry rule.id links entries)

/-- The registry of rules and the links that they may name (`compile_guidance_registry`). -/
def compile (rules : List RuleConfig) (links : List LinkConfig) :
    Except RegistryError GuidanceRegistry := do
  let catalog ← links.foldlM addLink []
  let entries ← rules.foldlM (addRule catalog) []
  pure ⟨entries⟩

end GuidanceRegistry
end AccessReport
