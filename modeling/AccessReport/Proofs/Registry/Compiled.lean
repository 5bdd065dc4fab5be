import AccessReport.Config.Explanation
import AccessReport.Decoration.Node
import AccessReport.Proofs.Outcomes
import AccessReport.Registry.Basic
/-!
# What compiled registries hold

Compilation gathers entries one by one and refuses an id that is there already. So where it
succeeds, the ids of what it read are pairwise distinct, and what it holds stands entry by entry
beside what was configured. Looking up a compiled entry is then looking up the configured one.

* `RuleRegistry.compile_ok_iff`: a list of rules compiles if and only if ids are distinct and all
  templates can be read; `Compiles` says what becomes of a rule.
* `RuleRegistry.get?_compile`: a compiled rule is found if and only if a configured one is.
* `RuleConfig.Compiles.unique`: there is only one thing that a configured rule can become.
* `Registries.withMessage_compile`: its message for a check is the configured one.
* `SuppressionList.isSuppressed_withAdditional`: which messages are suppressed.
* `SuppressionList.isSuppressed_congr`: their order and repetition do not matter.
-/
namespace AccessReport

/-! ## Rules -/

/-- A template is the one that a configured text, if any, is read as. -/
inductive Template.ReadsAs : Option String → Option Template → Prop where
  | none : ReadsAs none none
  | some {text : String} {template : Template} (h : Template.parse text = .ok template) :
    ReadsAs (some text) (some template)

/-- What becomes of a check. -/
structure CheckConfig.Compiles (config : CheckConfig) (check : CompiledCheck) : Prop where
  id : check.id = config.id
  pass : Template.ReadsAs config.passMessage check.pass
  fail : Template.ReadsAs config.failMessage check.fail

/-- What becomes of a rule. -/
structure RuleConfig.Compiles (config : RuleConfig) (rule : CompiledRule) : Prop where
  id : rule.id = config.id
  description : rule.description = config.description
  help : rule.help = config.help
  helpUrl : rule.helpUrl = config.helpUrl
  decorator : rule.decorator = config.decorator
  howToCheck : rule.howToCheck = config.howToCheck
  checks : List.Forall₂ CheckConfig.Compiles config.checks rule.checks
  distinct : (config.checks.map (·.id)).Nodup

/-- A compiled check is found if and only if a configured one is. -/
theorem RuleConfig.Compiles.check?_compile {config : RuleConfig} {rule : CompiledRule}
    (h : config.Compiles rule) (checkId : String) :
    Option.Rel CheckConfig.Compiles (config.checks.find? (·.id == checkId))
      (rule.check? checkId) :=
  find?_forall₂ (fun _ _ hc => by rw [hc.id]) h.checks

namespace RuleRegistry

theorem compileTemplate_ok_iff (ruleId checkId : String) (text : Option String)
    (template : Option Template) :
    compileTemplate ruleId checkId text = .ok template ↔ Template.ReadsAs text template := by
  cases text with
  | none =>
    constructor
    · intro h
      cases h
      exact .none
    · rintro ⟨⟩
      rfl
  | some text =>
    rw [compileTemplate]
    split
    · rename_i read hread
      constructor
      · intro h
        cases h
        exact .some hread
      · rintro (_ | h)
        rw [hread] at h
        cases h
        rfl
    · rename_i cause hread
      constructor
      · intro h
        cases h
      · rintro (_ | h)
        rw [hread] at h
        cases h

theorem addCheck_ok_iff (ruleId : String) (held : List CompiledCheck) (config : CheckConfig)
    (next : List CompiledCheck) :
    addCheck ruleId held config = .ok next ↔
      ∃ check, config.Compiles check ∧ check.id ∉ held.map (·.id) ∧ next = held ++ [check] := by
  unfold addCheck
  rw [bind_eq_ok]
  constructor
  · rintro ⟨pass, hp, h⟩
    obtain ⟨fail, hf, h⟩ := bind_eq_ok.mp h
    obtain ⟨hk, rfl⟩ := refuse_eq_ok.mp h
    exact ⟨_, ⟨rfl, (compileTemplate_ok_iff ..).mp hp, (compileTemplate_ok_iff ..).mp hf⟩,
      by simpa using hk, rfl⟩
  · rintro ⟨check, hc, hk, rfl⟩
    refine ⟨check.pass, (compileTemplate_ok_iff ..).mpr hc.pass, bind_eq_ok.mpr
      ⟨check.fail, (compileTemplate_ok_iff ..).mpr hc.fail, refuse_eq_ok.mpr ⟨?_, ?_⟩⟩⟩
    · simpa [hc.id] using hk
    · rw [← hc.id]

theorem compileRule_ok_iff (config : RuleConfig) (rule : CompiledRule) :
    compileRule config = .ok rule ↔ config.Compiles rule := by
  have gather := foldlM_gather_nil_ok_iff (addCheck_ok_iff config.id) config.checks
  unfold compileRule
  rw [bind_eq_ok]
  constructor
  · rintro ⟨checks, hc, h⟩
    cases h
    obtain ⟨hf, hn⟩ := (gather checks).mp hc
    refine ⟨rfl, rfl, rfl, rfl, rfl, rfl, hf, ?_⟩
    rwa [map_eq_of_forall₂ (fun _ _ h => h.id.symm) hf]
  · intro h
    have hn : (rule.checks.map (·.id)).Nodup := by
      rw [← map_eq_of_forall₂ (fun _ _ h => h.id.symm) h.checks]
      exact h.distinct
    refine ⟨rule.checks, (gather rule.checks).mpr ⟨h.checks, hn⟩, ?_⟩
    rw [← h.id, ← h.description, ← h.help, ← h.helpUrl, ← h.decorator, ← h.howToCheck]
    rfl

theorem addRule_ok_iff (held : List CompiledRule) (config : RuleConfig)
    (next : List CompiledRule) :
    addRule held config = .ok next ↔
      ∃ rule, config.Compiles rule ∧ rule.id ∉ held.map (·.id) ∧ next = held ++ [rule] := by
  unfold addRule
  rw [bind_eq_ok]
  constructor
  · rintro ⟨rule, hr, h⟩
    have hc := (compileRule_ok_iff config rule).mp hr
    obtain ⟨hk, rfl⟩ := refuse_eq_ok.mp h
    refine ⟨rule, hc, ?_, rfl⟩
    simpa [hc.id] using hk
  · rintro ⟨rule, hc, hk, rfl⟩
    refine ⟨rule, (compileRule_ok_iff config rule).mpr hc, refuse_eq_ok.mpr ⟨?_, rfl⟩⟩
    simpa [hc.id] using hk

theorem compile_ok_iff (configs : List RuleConfig) (registry : RuleRegistry) :
    compile configs = .ok registry ↔
      List.Forall₂ RuleConfig.Compiles configs registry.rules ∧ (configs.map (·.id)).Nodup := by
  have gather := foldlM_gather_nil_ok_iff addRule_ok_iff configs
  unfold compile
  rw [bind_eq_ok]
  constructor
  · rintro ⟨rules, hc, h⟩
    cases h
    obtain ⟨hf, hn⟩ := (gather rules).mp hc
    refine ⟨hf, ?_⟩
    rwa [map_eq_of_forall₂ (fun _ _ h => h.id.symm) hf]
  · rintro ⟨hf, hn⟩
    rw [map_eq_of_forall₂ (fun _ _ h => h.id.symm) hf] at hn
    exact ⟨registry.rules, (gather registry.rules).mpr ⟨hf, hn⟩, rfl⟩

/-- A compiled rule is found under an id if and only if a configured one is, and it is what became
of that one. -/
theorem get?_compile {configs : List RuleConfig} {registry : RuleRegistry}
    (h : compile configs = .ok registry) (ruleId : String) :
    Option.Rel RuleConfig.Compiles (configs.find? (·.id == ruleId)) (registry.get? ruleId) :=
  find?_forall₂ (fun _ _ hc => by simp only [hc.id]) ((compile_ok_iff configs registry).mp h).1

end RuleRegistry

/-! ## What becomes of an entry is determined by it -/

theorem Template.ReadsAs.unique {text : Option String} {first second : Option Template}
    (h : ReadsAs text first) (h' : ReadsAs text second) : first = second := by
  cases h with
  | none => cases h'; rfl
  | some hread =>
    cases h' with
    | some hread' => rw [Except.ok.inj (hread.symm.trans hread')]

theorem CheckConfig.Compiles.unique {config : CheckConfig} {first second : CompiledCheck}
    (h : config.Compiles first) (h' : config.Compiles second) : first = second := by
  obtain ⟨id, pass, fail⟩ := first
  obtain ⟨id', pass', fail'⟩ := second
  have hid : id = id' := h.id.trans h'.id.symm
  have hpass : pass = pass' := h.pass.unique h'.pass
  have hfail : fail = fail' := h.fail.unique h'.fail
  rw [hid, hpass, hfail]

theorem RuleConfig.Compiles.unique {config : RuleConfig} {first second : CompiledRule}
    (h : config.Compiles first) (h' : config.Compiles second) : first = second := by
  obtain ⟨id, description, help, helpUrl, decorator, howToCheck, checks⟩ := first
  have hchecks : checks = second.checks :=
    List.right_unique_forall₂' (fun _ _ _ hc hc' => hc.unique hc') h.checks h'.checks
  have hid : id = second.id := h.id.trans h'.id.symm
  have hdescription : description = second.description := h.description.trans h'.description.symm
  have hhelp : help = second.help := h.help.trans h'.help.symm
  have hhelpUrl : helpUrl = second.helpUrl := h.helpUrl.trans h'.helpUrl.symm
  have hdecorator : decorator = second.decorator := h.decorator.trans h'.decorator.symm
  have hhowToCheck : howToCheck = second.howToCheck := h.howToCheck.trans h'.howToCheck.symm
  rw [hchecks, hid, hdescription, hhelp, hhelpUrl, hdecorator, hhowToCheck]

/-! ## Reading a configuration

What a configuration says, looked up in its lists. -/

namespace Config

/-- The text of the template that is configured for the outcome of a rule's check. -/
def template? (config : Config) (ruleId : String) (check : Check) : Option String :=
  (config.rule? ruleId).bind fun rule =>
    (rule.checks.find? (·.id == check.id)).bind fun texts =>
      if check.result then texts.passMessage else texts.failMessage

/-- The message of a check in a report: the configured template filled from the check's own data,
else the message of the engine. -/
def finalMessage (config : Config) (ruleId : String) (check : Check) : String :=
  match config.template? ruleId check with
  | none => check.message
  | some text => match Template.parse text with
    | .ok template => template.render check.data
    | .error _ => check.message

/-- Whether a message is one of the suppressed ones, but for case and the blanks around it. -/
def suppresses (config : Config) (message : String) : Bool :=
  config.suppression.messages.any fun other =>
    Text.lowercase (Text.trim other) == Text.lowercase (Text.trim message)

def hasHowToCheck (config : Config) (ruleId : String) : Bool :=
  (config.rule? ruleId).any (·.howToCheck)

end Config

namespace SuppressionList

theorem mem_extend (suppressed : SuppressionList) (messages : List String) (form : String) :
    form ∈ (suppressed.extend messages).messages ↔
      form ∈ suppressed.messages ∨ ∃ message ∈ messages, normalize message = form := by
  obtain ⟨held⟩ := suppressed
  induction messages generalizing held with
  | nil => simp [extend]
  | cons message messages ih =>
    have step := ih (held.insert (normalize message))
    simp only [extend, List.foldl_cons] at step ⊢
    rw [step, List.mem_insert_iff, List.exists_mem_cons_iff]
    constructor
    · rintro ((rfl | h) | h)
      · exact .inr (.inl rfl)
      · exact .inl h
      · exact .inr (.inr h)
    · rintro (h | rfl | h)
      · exact .inl (.inr h)
      · exact .inl (.inl rfl)
      · exact .inr h

theorem isSuppressed_withAdditional (messages : List String) (message : String) :
    (withAdditional messages).isSuppressed message
      = messages.any fun other => normalize other == normalize message := by
  have hb : builtIn.messages = [] := rfl
  rw [Bool.eq_iff_iff, isSuppressed, List.contains_iff_mem, withAdditional, mem_extend, hb]
  simp

/-- Lists with the same messages suppress the same, in whatever order and however often they name
them. -/
theorem isSuppressed_congr {messages others : List String}
    (h : ∀ message, message ∈ messages ↔ message ∈ others) (message : String) :
    (withAdditional messages).isSuppressed message
      = (withAdditional others).isSuppressed message := by
  rw [Bool.eq_iff_iff]
  simp only [isSuppressed_withAdditional, List.any_eq_true, h]

end SuppressionList

namespace Registries

theorem compile_ok_iff (config : Config) (registries : Registries) :
    compile config = .ok registries ↔
      RuleRegistry.compile config.rules = .ok registries.rules ∧
      GuidanceRegistry.compile config.rules config.links = .ok registries.guidance ∧
      SuppressionList.withAdditional config.suppression.messages = registries.suppression := by
  unfold compile
  rw [bind_eq_ok]
  constructor
  · rintro ⟨rules, hr, h⟩
    obtain ⟨guidance, hg, h⟩ := bind_eq_ok.mp h
    cases h
    exact ⟨hr, hg, rfl⟩
  · rintro ⟨hr, hg, hs⟩
    refine ⟨registries.rules, hr, bind_eq_ok.mpr ⟨registries.guidance, hg, ?_⟩⟩
    rw [hs]
    rfl

section
variable {config : Config} {registries : Registries} (h : compile config = .ok registries)

include h in
theorem get?_compile (ruleId : String) :
    Option.Rel RuleConfig.Compiles (config.rule? ruleId) (registries.rules.get? ruleId) :=
  RuleRegistry.get?_compile ((compile_ok_iff config registries).mp h).1 ruleId

include h in
theorem isSuppressed_compile (message : String) :
    registries.suppression.isSuppressed message = config.suppresses message := by
  rw [← ((compile_ok_iff config registries).mp h).2.2]
  exact SuppressionList.isSuppressed_withAdditional _ message

include h in
theorem hasHowToCheck_compile (ruleId : String) :
    registries.rules.hasHowToCheck ruleId = config.hasHowToCheck ruleId := by
  have hr := get?_compile h ruleId
  unfold RuleRegistry.hasHowToCheck Config.hasHowToCheck
  generalize config.rule? ruleId = rule, registries.rules.get? ruleId = compiled at hr
  cases hr with
  | none => rfl
  | some hc => exact hc.howToCheck

include h in
/-- A check's message after decoration, as the configuration alone says it. -/
theorem withMessage_compile (ruleId : String) (check : Check) :
    (check.withMessage (registries.rules.get? ruleId)).message
      = config.finalMessage ruleId check := by
  have hr := get?_compile h ruleId
  simp only [Check.withMessage, Check.configuredMessage?, Config.finalMessage, Config.template?]
  generalize config.rule? ruleId = rule, registries.rules.get? ruleId = compiled at hr
  cases hr with
  | none => rfl
  | @some rule compiled hc =>
    have hk := hc.check?_compile check.id
    simp only [Option.bind_some]
    generalize rule.checks.find? (·.id == check.id) = texts, compiled.check? check.id = messages
      at hk
    cases hk with
    | none => rfl
    | @some texts messages hk =>
      simp only [Option.bind_some, CompiledCheck.message?]
      have hreads : Template.ReadsAs (if check.result then texts.passMessage else texts.failMessage)
          (if check.result then messages.pass else messages.fail) := by
        split
        · exact hk.pass
        · exact hk.fail
      generalize (if check.result then texts.passMessage else texts.failMessage) = text,
        (if check.result then messages.pass else messages.fail) = template at hreads
      cases hreads with
      | none => rfl
      | some ht => simp [ht]

end

end Registries
end AccessReport
