import AccessReport.Proofs.Decoration.Alike
import AccessReport.Proofs.Registry.Guidance
/-!
# Configurations laid over one another

A configuration that is laid over another one replaces entries with the same id and adds its own
behind them. What the lower one says about a rule stands as long as the upper one neither defines
the rule nor redefines a link that it refers to: the compiled rule, its links in their order and the
synthetic link are then what they were, wherever the other entries came to stand.

* `Config.rule?_merge`, `Config.link?_merge`: an entry that the upper configuration does not have is
  found as it was.
* `Config.guidance?_merge`: so is the guidance of a rule.
* `Registries.alikeAt_merge`: the compiled registries answer alike about the rule.
* `Registries.decorateRule?_merge`: its results are decorated as before, or dropped as before.
-/
namespace AccessReport

/-- What is laid over a configuration leaves a rule alone: the rule is not defined again, and none
of the links that it refers to is. -/
structure Config.Spares (upper base : Config) (ruleId : String) : Prop where
  rule : ruleId ∉ upper.rules.map (·.id)
  links : ∀ rule, base.rule? ruleId = some rule →
    ∀ key ∈ rule.guidance, key ∉ upper.links.map (·.id)

namespace Merge

variable {α : Type} {id : α → String}

theorem find?_byId_of_not_mem (base : List α) {upper : List α} {key : String}
    (h : key ∉ upper.map id) :
    (byId id base upper).find? (id · == key) = base.find? (id · == key) := by
  have hreverse : upper.reverse.find? (id · == key) = none := by
    rw [find?_eq_none_iff, List.map_reverse, List.mem_reverse]
    exact h
  rw [find?_byId, hreverse, Option.none_or]

end Merge

namespace Config

variable {base upper : Config}

theorem rule?_merge {ruleId : String} (h : ruleId ∉ upper.rules.map (·.id)) :
    (base.merge upper).rule? ruleId = base.rule? ruleId :=
  Merge.find?_byId_of_not_mem base.rules h

theorem link?_merge {key : String} (h : key ∉ upper.links.map (·.id)) :
    (base.merge upper).link? key = base.link? key :=
  Merge.find?_byId_of_not_mem base.links h

theorem linksOf_merge {rule : RuleConfig}
    (h : ∀ key ∈ rule.guidance, key ∉ upper.links.map (·.id)) :
    (base.merge upper).linksOf rule = base.linksOf rule := by
  have hkeys : rule.guidance.filterMap
        (fun key => ((base.merge upper).link? key).map LinkConfig.toGuidanceLink)
      = rule.guidance.filterMap fun key => (base.link? key).map LinkConfig.toGuidanceLink :=
    List.filterMap_congr fun key hk => by rw [link?_merge (h key hk)]
  rw [linksOf, linksOf, hkeys]

theorem guidance?_merge {ruleId : String} (h : upper.Spares base ruleId) :
    (base.merge upper).guidance? ruleId = base.guidance? ruleId := by
  unfold guidance?
  rw [rule?_merge h.rule]
  cases hrule : base.rule? ruleId with
  | none => rfl
  | some rule => rw [Option.map_some, Option.map_some, linksOf_merge (h.links rule hrule)]

/-- Without messages of its own the upper configuration suppresses nothing more. -/
theorem suppresses_merge (h : upper.suppression.messages = []) (message : String) :
    (base.merge upper).suppresses message = base.suppresses message := by
  have hmessages : (base.merge upper).suppression.messages = base.suppression.messages := by
    unfold merge
    simp only [h]
    rfl
  rw [suppresses, suppresses, hmessages]

end Config

namespace Registries

section
variable {base upper : Config} {registries merged : Registries}
  (hc : compile base = .ok registries) (hc' : compile (base.merge upper) = .ok merged)

include hc hc' in
theorem get?_merge {ruleId : String} (h : ruleId ∉ upper.rules.map (·.id)) :
    merged.rules.get? ruleId = registries.rules.get? ruleId := by
  have hbase := get?_compile hc ruleId
  have hmerged := get?_compile hc' ruleId
  rw [Config.rule?_merge h] at hmerged
  -- both compiled rules, if there are any, come from the one rule of the lower configuration
  revert hbase hmerged
  generalize base.rule? ruleId = config, registries.rules.get? ruleId = compiled,
    merged.rules.get? ruleId = compiled'
  rintro (hcompiles | _) (hcompiles' | _)
  · rw [hcompiles'.unique hcompiles]
  · rfl

include hc hc' in
theorem alikeAt_merge (hm : upper.suppression.messages = []) {ruleId : String}
    (h : upper.Spares base ruleId) : AlikeAt ruleId merged registries where
  rule := by
    rw [get?_merge hc hc' h.rule]
    cases registries.rules.get? ruleId with
    | none => exact .none
    | some rule => exact .some ⟨rfl, rfl, rfl, rfl, rfl, fun _ => rfl⟩
  guidance := by
    rw [linksFor?_compile hc', linksFor?_compile hc, Config.guidance?_merge h]
  suppression message := by
    rw [isSuppressed_compile hc', isSuppressed_compile hc, Config.suppresses_merge hm]

end

/-- **Overrides.** Under a configuration that another one is laid over, a result of a rule that
this one leaves alone becomes what it becomes under the lower configuration, in each bucket, or is
dropped as it is there. -/
theorem decorateRule?_merge {base upper : Config} {registries merged : Registries}
    (hm : upper.suppression.messages = []) (hc : compile base = .ok registries)
    (hc' : compile (base.merge upper) = .ok merged) (bucket : Bucket) (rule : RuleResult)
    (h : upper.Spares base rule.id) :
    merged.decorateRule? bucket rule = registries.decorateRule? bucket rule :=
  decorateRule?_alike (alikeAt_merge hc hc' hm h) bucket

/-- A rule with two links, in an order of their own, and a message. -/
def handbook : Config where
  rules := [
    { id := "label", helpUrl := some "https://old.example" },
    { id := "alt"
      guidance := ["B", "A"]
      bestPractice := true
      checks := [{ id := "has-alt", failMessage := some "no text" }] }]
  links := [{ id := "A", text := "first", href := "" }, { id := "B", text := "second", href := "" }]
  suppression := { messages := ["noise"] }

/-- Rules and links around those of the handbook, with ids that begin alike, and one that replaces
a rule. -/
def appendix : Config where
  rules := [
    { id := "alt-text", guidance := ["AB"], checks := [{ id := "has-alt" }] },
    { id := "label", helpUrl := some "https://new.example" }]
  links := [{ id := "AB", text := "third", href := "" }]

/-- A result with a check whose message is configured and one whose message is suppressed. -/
def altResult : RuleResult where
  id := "alt"
  nodes := [
    { target := ["a"], anyChecks := [{ id := "has-alt" }, { id := "other", message := "noise" }] },
    { target := ["b"], anyChecks := [{ id := "other", message := "noise" }] }]

theorem decorateRule?_appendix :
    (appendix.suppression.messages = [] ∧ appendix.Spares handbook "alt") ∧
      ∃ registries merged, compile handbook = .ok registries ∧
        compile (handbook.merge appendix) = .ok merged ∧
        merged.decorateRule? .violations altResult
          = registries.decorateRule? .violations altResult ∧
        (merged.decorateRule? .violations altResult).map (fun rule =>
          (rule.nodes.map fun node => node.anyChecks.map (·.message),
            rule.guidanceLinks.map fun links => links.map (·.text)))
          = some ([["no text"]], some ["second", "first", "Best Practice"]) := by
  have hm : appendix.suppression.messages = [] := rfl
  have hspares : appendix.Spares handbook "alt" :=
    ⟨by decide, fun rule hrule => by cases hrule; decide⟩
  have hlower : (compile handbook).toOption.isSome = true := by decide +kernel
  have hboth : ((compile (handbook.merge appendix)).toOption.bind fun merged =>
      (merged.decorateRule? .violations altResult).map fun rule =>
        (rule.nodes.map fun node => node.anyChecks.map (·.message),
          rule.guidanceLinks.map fun links => links.map (·.text)))
        = some ([["no text"]], some ["second", "first", "Best Practice"]) := by
    decide +kernel
  obtain ⟨registries, hregistries⟩ := Option.isSome_iff_exists.mp hlower
  obtain ⟨merged, hmerged, hresult⟩ := Option.bind_eq_some_iff.mp hboth
  have hc := toOption_eq_some.mp hregistries
  have hc' := toOption_eq_some.mp hmerged
  exact ⟨⟨hm, hspares⟩, registries, merged, hc, hc',
    decorateRule?_merge hm hc hc' .violations altResult hspares, hresult⟩

end Registries
end AccessReport
