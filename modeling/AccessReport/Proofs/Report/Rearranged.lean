import AccessReport.Proofs.Decoration.Alike
import AccessReport.Proofs.Registry.Guidance
import AccessReport.Proofs.Report.Accounting
import Mathlib.Data.List.Perm.Basic
/-!
# The layout of a configuration

The entries of a configuration may stand in any order, and a suppressed message may be named more
than once. If one layout compiles, the ids are distinct, so that every entry is found under its id
in any other layout as well: the registries answer alike, and the reports are equal.

* `Config.Rearranged`: two layouts of one configuration.
* `Config.Rearranged.sound`: both compile or neither does.
* `Registries.alike_of_rearranged`: what they compile to answers alike.
* `Report.ofScan_alike`: registries that answer alike make equal reports.
* `Report.run_rearranged`: the reports with two layouts of one configuration.
-/
namespace AccessReport

/-! ## Layouts -/

/-- Two rules differ at most in the order of their checks. -/
structure RuleConfig.Rearranged (rule other : RuleConfig) : Prop where
  checks : rule.checks.Perm other.checks
  rest : other = { rule with checks := other.checks }

/-- Two configurations have the same entries in whatever order, and suppress the same messages. -/
structure Config.Rearranged (config other : Config) : Prop where
  rules : ∃ middle, List.Forall₂ RuleConfig.Rearranged config.rules middle ∧
    middle.Perm other.rules
  links : config.links.Perm other.links
  messages : ∀ message,
    message ∈ config.suppression.messages ↔ message ∈ other.suppression.messages

namespace RuleConfig.Rearranged

variable {rule other : RuleConfig} (h : rule.Rearranged other)

include h in
theorem symm : other.Rearranged rule where
  checks := h.checks.symm
  rest := by rw [h.rest]

include h in
theorem id : rule.id = other.id := by rw [h.rest]

include h in
theorem sound {known known' : List String} (hknown : known ⊆ known') (hs : rule.Sound known) :
    other.Sound known' where
  keys key hk := by
    rw [h.rest] at hk
    exact hknown (hs.keys key hk)
  distinct := (h.checks.map (·.id)).nodup_iff.mp hs.distinct
  checks check hc := hs.checks check (h.checks.mem_iff.mpr hc)

end RuleConfig.Rearranged

namespace Config.Rearranged

variable {config other : Config} (h : config.Rearranged other)

include h in
theorem symm : other.Rearranged config where
  rules := by
    obtain ⟨middle, hrules, hperm⟩ := h.rules
    have hback : List.Forall₂ RuleConfig.Rearranged middle config.rules :=
      (hrules.imp fun _ _ hr => hr.symm).flip
    exact List.perm_comp_forall₂ hperm.symm hback
  links := h.links.symm
  messages message := (h.messages message).symm

include h in
theorem ids_rules : (config.rules.map (·.id)).Perm (other.rules.map (·.id)) := by
  obtain ⟨middle, hrules, hperm⟩ := h.rules
  rw [map_eq_of_forall₂ (fun _ _ hr => hr.id) hrules]
  exact hperm.map (·.id)

include h in
theorem ids_links : (config.links.map (·.id)).Perm (other.links.map (·.id)) :=
  h.links.map (·.id)

include h in
/-- A rule of one layout is a rule of the other one, but for the order of its checks. -/
theorem exists_of_mem {rule : RuleConfig} (hm : rule ∈ other.rules) :
    ∃ before ∈ config.rules, before.Rearranged rule := by
  obtain ⟨middle, hrules, hperm⟩ := h.rules
  exact exists_of_forall₂ hrules (hperm.mem_iff.mpr hm)

include h in
/-- What is found under an id in two layouts differs at most in the order of its checks. -/
theorem rule? (hn : (config.rules.map (·.id)).Nodup) (ruleId : String) :
    Option.Rel RuleConfig.Rearranged (config.rule? ruleId) (other.rule? ruleId) := by
  obtain ⟨middle, hrules, hperm⟩ := h.rules
  have hmiddle : (middle.map (·.id)).Nodup := by
    rwa [← map_eq_of_forall₂ (fun _ _ hr => hr.id) hrules]
  rw [Config.rule?, Config.rule?, ← Merge.find?_perm hperm hmiddle]
  exact find?_forall₂ (fun _ _ hr => by rw [hr.id]) hrules

include h in
theorem guidance? (hs : config.Sound (config.links.map (·.id))) (ruleId : String) :
    config.guidance? ruleId = other.guidance? ruleId := by
  have hlink : config.link? = other.link? := funext (Merge.find?_perm h.links hs.links)
  have hrule := h.rule? hs.rules ruleId
  unfold Config.guidance?
  generalize config.rule? ruleId = rule, other.rule? ruleId = same at hrule
  cases hrule with
  | none => rfl
  | @some rule same hr =>
    have hkeys : rule.guidance = same.guidance := by rw [hr.rest]
    have hbest : rule.bestPractice = same.bestPractice := by rw [hr.rest]
    have hlinks : config.linksOf rule = other.linksOf same := by
      rw [Config.linksOf, Config.linksOf, hlink, hkeys, hbest]
    rw [Option.map_some, Option.map_some, hlinks]

include h in
theorem sound (hs : config.Sound (config.links.map (·.id))) :
    other.Sound (other.links.map (·.id)) where
  rules := h.ids_rules.nodup_iff.mp hs.rules
  links := h.ids_links.nodup_iff.mp hs.links
  each rule hm := by
    obtain ⟨before, hbefore, hrule⟩ := h.exists_of_mem hm
    exact hrule.sound h.ids_links.subset (hs.each before hbefore)

end Config.Rearranged

/-! ## Compiling -/

/-- Two layouts of a rule compile to rules that answer alike. -/
theorem RuleConfig.Rearranged.alike {config other : RuleConfig} (h : config.Rearranged other)
    {rule same : CompiledRule} (hc : config.Compiles rule) (hc' : other.Compiles same) :
    rule.Alike same where
  description := by rw [hc.description, hc'.description, h.rest]
  help := by rw [hc.help, hc'.help, h.rest]
  helpUrl := by rw [hc.helpUrl, hc'.helpUrl, h.rest]
  decorator := by rw [hc.decorator, hc'.decorator, h.rest]
  howToCheck := by rw [hc.howToCheck, hc'.howToCheck, h.rest]
  check? checkId := by
    have hcheck := hc.check?_compile checkId
    have hcheck' := hc'.check?_compile checkId
    rw [← Merge.find?_perm h.checks hc.distinct] at hcheck'
    generalize config.checks.find? (·.id == checkId) = check at hcheck hcheck'
    revert hcheck hcheck'
    generalize rule.check? checkId = first, same.check? checkId = second
    rintro (hfirst | _) (hsecond | _)
    · rw [hfirst.unique hsecond]
    · rfl

namespace Registries

/-- Two layouts of a configuration compile to registries that answer alike. -/
theorem alike_of_rearranged {config other : Config} (h : config.Rearranged other)
    {registries same : Registries} (hc : compile config = .ok registries)
    (hc' : compile other = .ok same) : registries.Alike same where
  rules ruleId := by
    have hsound := compile_succeeds_iff.mp ⟨registries, hc⟩
    have hrule := h.rule? hsound.rules ruleId
    have hget := get?_compile hc ruleId
    have hget' := get?_compile hc' ruleId
    revert hrule hget hget'
    generalize config.rule? ruleId = rule, other.rule? ruleId = rule',
      registries.rules.get? ruleId = compiled, same.rules.get? ruleId = compiled'
    rintro (hr | _) (hcompiles | _) (hcompiles' | _)
    · exact .some (hr.alike hcompiles hcompiles')
    · exact .none
  guidance ruleId := by
    have hsound := compile_succeeds_iff.mp ⟨registries, hc⟩
    rw [linksFor?_compile hc, linksFor?_compile hc', h.guidance? hsound]
  suppression message := by
    rw [← ((compile_ok_iff config registries).mp hc).2.2,
      ← ((compile_ok_iff other same).mp hc').2.2]
    exact SuppressionList.isSuppressed_congr h.messages message

end Registries

/-! ## Reports -/

section
variable {registries other : Registries} (h : registries.Alike other)

include h in
theorem RuleRegistry.hasHowToCheck_alike (ruleId : String) :
    registries.rules.hasHowToCheck ruleId = other.rules.hasHowToCheck ruleId := by
  have hrule := h.rules ruleId
  unfold hasHowToCheck
  generalize registries.rules.get? ruleId = rule, other.rules.get? ruleId = same at hrule
  cases hrule with
  | none => rfl
  | some halike => exact halike.howToCheck

include h in
theorem Converter.results_alike (uids : UidSupply) (mode : ConversionMode) (scan : ScanResults) :
    results { rules := registries.rules, uids } mode scan
      = results { rules := other.rules, uids } mode scan := by
  have hresolution : Resolution.ofNode registries.rules = Resolution.ofNode other.rules := by
    funext status ruleId node
    cases status <;> simp only [Resolution.ofNode, RuleRegistry.hasHowToCheck_alike h]
  simp only [results_eq, UnifiedResult.ofNode, hresolution]

include h in
theorem Report.ofScan_alike (plan : ReportPlan) (uids : UidSupply) (engine : EngineScan) :
    ofScan plan registries uids engine = ofScan plan other uids engine := by
  simp only [ofScan, Registries.decorate_alike h, Converter.results_alike h]

end

namespace Report

theorem run_of_rearranged {config other : Config} (h : config.Rearranged other)
    {plan : ReportPlan} {text : String} {uids : UidSupply} {report : Report}
    (hrun : (run plan config text uids).outcome = .ok report) :
    (run plan other text uids).outcome = .ok report := by
  obtain ⟨engine, registries, hengine, hc, rfl⟩ := (run_outcome ..).mp hrun
  obtain ⟨same, hc'⟩ := Registries.compile_succeeds_iff.mpr
    (h.sound (Registries.compile_succeeds_iff.mp ⟨registries, hc⟩))
  exact (run_outcome ..).mpr ⟨engine, same, hengine, hc',
    ofScan_alike (Registries.alike_of_rearranged h hc hc') plan uids engine⟩

/-- **Layout.** Two layouts of one configuration give the same reports: a report is made with the
one if and only if it is made with the other, and it is the same report. -/
theorem run_rearranged {config other : Config} (h : config.Rearranged other) (plan : ReportPlan)
    (text : String) (uids : UidSupply) (report : Report) :
    (run plan config text uids).outcome = .ok report ↔
      (run plan other text uids).outcome = .ok report :=
  ⟨run_of_rearranged h, run_of_rearranged h.symm⟩

/-- Two rules, one with two checks and two links. -/
def tidyConfig : Config where
  rules := [
    { id := "alt"
      guidance := ["B", "A"]
      checks := [{ id := "has-alt", passMessage := some "good" }, { id := "has-text" }] },
    { id := "title", bestPractice := true }]
  links := [{ id := "A", text := "first", href := "" }, { id := "B", text := "second", href := "" }]
  suppression := { messages := ["noise", "hum"] }

/-- The same, turned around at every place, with one message named twice. -/
def turnedConfig : Config where
  rules := [
    { id := "title", bestPractice := true },
    { id := "alt"
      guidance := ["B", "A"]
      checks := [{ id := "has-text" }, { id := "has-alt", passMessage := some "good" }] }]
  links := [{ id := "B", text := "second", href := "" }, { id := "A", text := "first", href := "" }]
  suppression := { messages := ["hum", "noise", "hum"] }

theorem rearranged_turned : tidyConfig.Rearranged turnedConfig where
  rules := ⟨turnedConfig.rules.reverse,
    .cons ⟨.swap .., rfl⟩ (.cons ⟨.refl _, rfl⟩ .nil), List.reverse_perm _⟩
  links := .swap ..
  messages message := by
    simp only [tidyConfig, turnedConfig, List.mem_cons, List.not_mem_nil, or_false]
    tauto

theorem run_rearranged_turned :
    tidyConfig.Rearranged turnedConfig ∧ ∃ report,
      (run {} tidyConfig mixedText fun n => toString n).outcome = .ok report ∧
      (run {} turnedConfig mixedText fun n => toString n).outcome = .ok report ∧
      report.unified.rules.map (fun rule => rule.guidance.map (·.text))
        = [["second", "first"], ["Best Practice"]] := by
  have hrun : ((run {} tidyConfig mixedText fun n => toString n).outcome.toOption.map fun report =>
      report.unified.rules.map fun rule => rule.guidance.map (·.text))
        = some [["second", "first"], ["Best Practice"]] := by
    decide +kernel
  obtain ⟨report, hreport, hguidance⟩ := Option.map_eq_some_iff.mp hrun
  have hok := toOption_eq_some.mp hreport
  exact ⟨rearranged_turned, report, hok,
    (run_rearranged rearranged_turned {} mixedText (fun n => toString n) report).mp hok, hguidance⟩

end Report
end AccessReport
