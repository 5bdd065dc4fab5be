import AccessReport.Config.Structure
import AccessReport.Proofs.Registry.Sound
/-!
# All problems and the first one

The list of all problems of a configuration is compared with its compilation, which stops at the
first problem it meets. Both walk over the same entries with the ids that came before.

* `ConfigProblem.eachAfter_eq_nil_iff`: when such a walk lists nothing.
* `ConfigProblem.ofConfig_eq_nil_iff`: no problem is listed if and only if the configuration is
  sound.
* `ConfigProblem.Follows.named`: what stops a loop of the compiler is listed by the walk that goes
  with it.
* `ConfigProblem.unknownLink_mem_iff`: which keys are called unknown.
* `ConfigProblem.isInside_of_compile`: where each id is defined once, only the inside of a rule can
  stop the compilation.
* `Config.problems_of_compile`: compilation fails if and only if problems are listed, and its error
  is one of them.
-/
namespace AccessReport

namespace ConfigProblem

/-! ## Nothing to list -/

theorem repeated_eq_nil_iff {problem : ConfigProblem} {id : String} {seen : List String} :
    repeated problem id seen = [] ↔ id ∉ seen := by
  unfold repeated
  by_cases hm : id ∈ seen
  · simp [hm]
  · simp [hm]

section
variable {α : Type} {id : α → String} {problems : List String → α → List ConfigProblem}
  {again : α → ConfigProblem} {own : α → List ConfigProblem}
  (hshape : ∀ seen item, problems seen item = repeated (again item) (id item) seen ++ own item)

include hshape

/-- Nothing is listed if and only if all ids are new and no item has a problem of its own. -/
theorem eachAfter_eq_nil_iff {seen : List String} {items : List α} :
    eachAfter id problems seen items = [] ↔
      (items.map id).Nodup ∧ (∀ item ∈ items, id item ∉ seen) ∧ ∀ item ∈ items, own item = [] := by
  induction items generalizing seen with
  | nil => simp [eachAfter]
  | cons item items ih =>
    rw [eachAfter, List.append_eq_nil_iff, hshape, List.append_eq_nil_iff, repeated_eq_nil_iff, ih,
      List.map_cons, List.nodup_cons, List.forall_mem_cons, List.forall_mem_cons]
    constructor
    · rintro ⟨⟨hnew, hown⟩, hn, hrest, hall⟩
      refine ⟨⟨?_, hn⟩, ⟨hnew, ?_⟩, hown, hall⟩
      · rw [List.mem_map]
        rintro ⟨other, ho, he⟩
        exact hrest other ho (he ▸ List.mem_cons_self)
      · exact fun other ho hm => hrest other ho (List.mem_cons_of_mem _ hm)
    · rintro ⟨⟨hfresh, hn⟩, ⟨hnew, hrest⟩, hown, hall⟩
      refine ⟨⟨hnew, hown⟩, hn, fun other ho hm => ?_, hall⟩
      rcases List.mem_cons.mp hm with he | hm
      · exact hfresh (he ▸ List.mem_map_of_mem ho)
      · exact hrest other ho hm

/-- Where all ids are new, each item has its own problems only. -/
theorem eachAfter_of_nodup {seen : List String} {items : List α} (hn : (items.map id).Nodup)
    (hnew : ∀ item ∈ items, id item ∉ seen) :
    eachAfter id problems seen items = items.flatMap own := by
  induction items generalizing seen with
  | nil => rfl
  | cons item items ih =>
    rw [List.map_cons, List.nodup_cons] at hn
    rw [List.forall_mem_cons] at hnew
    have hrest : ∀ other ∈ items, id other ∉ id item :: seen := by
      intro other ho hm
      rcases List.mem_cons.mp hm with he | hm
      · exact hn.1 (he ▸ List.mem_map_of_mem ho)
      · exact hnew.2 other ho hm
    rw [eachAfter, hshape, repeated_eq_nil_iff.mpr hnew.1, List.nil_append, ih hn.2 hrest,
      List.flatMap_cons]

end

theorem ofTemplate_eq_nil_iff {ruleId checkId field : String} {text : Option String} :
    ofTemplate ruleId checkId field text = [] ↔ Template.Readable text := by
  cases text with
  | none => simp [ofTemplate, Template.Readable]
  | some written =>
    rw [ofTemplate]
    cases hread : Template.parse written with
    | ok template => simp [Template.Readable, hread]
    | error cause => simp [Template.Readable, hread]

/-- The problems of a check alone. -/
def ofMessages (ruleId : String) (check : CheckConfig) : List ConfigProblem :=
  ofTemplate ruleId check.id "pass_message" check.passMessage
    ++ ofTemplate ruleId check.id "fail_message" check.failMessage

theorem ofCheck_eq (ruleId : String) (seen : List String) (check : CheckConfig) :
    ofCheck ruleId seen check
      = repeated (.duplicateCheck ruleId check.id) check.id seen ++ ofMessages ruleId check :=
  List.append_assoc ..

theorem ofMessages_eq_nil_iff {ruleId : String} {check : CheckConfig} :
    ofMessages ruleId check = [] ↔ check.Sound := by
  rw [ofMessages, List.append_eq_nil_iff, ofTemplate_eq_nil_iff, ofTemplate_eq_nil_iff]
  exact ⟨fun h => ⟨h.1, h.2⟩, fun h => ⟨h.pass, h.fail⟩⟩

/-- The problems of a rule alone. -/
def ofContents (knownLinks : List String) (rule : RuleConfig) : List ConfigProblem :=
  rule.guidance.flatMap (ofKey knownLinks rule.id)
    ++ eachAfter (·.id) (ofCheck rule.id) [] rule.checks

theorem ofRule_eq (knownLinks seen : List String) (rule : RuleConfig) :
    ofRule knownLinks seen rule
      = repeated (.duplicateRule rule.id) rule.id seen ++ ofContents knownLinks rule :=
  List.append_assoc ..

theorem ofKeys_eq_nil_iff {knownLinks : List String} {ruleId : String} {keys : List String} :
    keys.flatMap (ofKey knownLinks ruleId) = [] ↔ ∀ key ∈ keys, key ∈ knownLinks := by
  simp [ofKey]

theorem ofContents_eq_nil_iff {knownLinks : List String} {rule : RuleConfig} :
    ofContents knownLinks rule = [] ↔ rule.Sound knownLinks := by
  rw [ofContents, List.append_eq_nil_iff, ofKeys_eq_nil_iff, eachAfter_eq_nil_iff (ofCheck_eq _)]
  simp only [ofMessages_eq_nil_iff]
  constructor
  · rintro ⟨hkeys, hn, -, hchecks⟩
    exact ⟨hkeys, hn, hchecks⟩
  · intro h
    exact ⟨h.keys, h.distinct, fun _ _ => List.not_mem_nil, h.checks⟩

theorem ofLink_eq (seen : List String) (link : LinkConfig) :
    ofLink seen link = repeated (.duplicateLink link.id) link.id seen ++ [] :=
  (List.append_nil _).symm

/-- No problem is listed if and only if the configuration is sound. -/
theorem ofConfig_eq_nil_iff {knownLinks : List String} {config : Config} :
    ofConfig knownLinks config = [] ↔ config.Sound knownLinks := by
  rw [ofConfig, List.append_eq_nil_iff, eachAfter_eq_nil_iff ofLink_eq,
    eachAfter_eq_nil_iff (ofRule_eq knownLinks)]
  simp only [ofContents_eq_nil_iff]
  constructor
  · rintro ⟨⟨hl, -, -⟩, hr, -, heach⟩
    exact ⟨⟨hr, hl⟩, heach⟩
  · intro h
    exact ⟨⟨h.links, fun _ _ => List.not_mem_nil, fun _ _ => trivial⟩, h.rules,
      fun _ _ => List.not_mem_nil, h.each⟩

/-! ## The first problem -/

end ConfigProblem

/-- The problem that an error of compilation speaks of. -/
inductive RegistryError.Names : RegistryError → ConfigProblem → Prop where
  | duplicateRule (ruleId : String) : Names (.duplicateRule ruleId) (.duplicateRule ruleId)
  | duplicateCheck (ruleId checkId : String) :
    Names (.duplicateCheck ruleId checkId) (.duplicateCheck ruleId checkId)
  | duplicateLink (linkId : String) : Names (.duplicateLink linkId) (.duplicateLink linkId)
  | unknownLink (ruleId linkId : String) :
    Names (.unknownLink ruleId linkId) (.unknownLink ruleId linkId)
  | invalidTemplate (ruleId checkId field template : String) (cause : TemplateError) :
    Names (.invalidTemplate ruleId checkId template cause)
      (.invalidTemplate ruleId checkId field template cause)

namespace RegistryError

/-- One of the problems is the one that the error speaks of. -/
def NamedIn (error : RegistryError) (problems : List ConfigProblem) : Prop :=
  ∃ problem ∈ problems, error.Names problem

theorem NamedIn.mono {error : RegistryError} {problems others : List ConfigProblem}
    (h : error.NamedIn problems) (hsub : problems ⊆ others) : error.NamedIn others :=
  h.imp fun _ hp => ⟨hsub hp.1, hp.2⟩

theorem NamedIn.left {error : RegistryError} {problems : List ConfigProblem}
    (h : error.NamedIn problems) (others : List ConfigProblem) :
    error.NamedIn (problems ++ others) := h.mono (List.subset_append_left ..)

theorem NamedIn.right {error : RegistryError} {problems : List ConfigProblem}
    (h : error.NamedIn problems) (others : List ConfigProblem) :
    error.NamedIn (others ++ problems) := h.mono (List.subset_append_right ..)

theorem namedIn_repeated {error : RegistryError} {problem : ConfigProblem}
    (h : error.Names problem) {id : String} {seen : List String} (hm : id ∈ seen) :
    error.NamedIn (ConfigProblem.repeated problem id seen) := by
  have hc : seen.contains id = true := by simpa using hm
  rw [ConfigProblem.repeated, if_pos hc]
  exact ⟨problem, List.mem_singleton.mpr rfl, h⟩

end RegistryError

open RegistryError

namespace ConfigProblem

/-- A problem of one item wherever it stands is listed with all others. -/
theorem subset_eachAfter {α : Type} {id : α → String}
    {problems : List String → α → List ConfigProblem} {own : List ConfigProblem} {item : α}
    (hown : ∀ seen, own ⊆ problems seen item) {seen : List String} {items : List α}
    (hm : item ∈ items) : own ⊆ eachAfter id problems seen items := by
  induction items generalizing seen with
  | nil => exact absurd hm List.not_mem_nil
  | cons first items ih =>
    rw [eachAfter]
    rcases List.mem_cons.mp hm with rfl | hm
    · exact List.subset_append_of_subset_left _ (hown seen)
    · exact List.subset_append_of_subset_right _ (ih hm)

/-- A loop of the compiler goes with a walk: it gathers entries under the ids that the walk sees,
and where it stops the walk lists what stopped it. -/
structure Follows {α β : Type} (id : α → String) (key : β → String)
    (problems : List String → α → List ConfigProblem)
    (step : List β → α → Except RegistryError (List β)) : Prop where
  gathers : ∀ {held item next}, step held item = .ok next →
    next.map key = held.map key ++ [id item]
  stops : ∀ {held item error}, step held item = .error error →
    ∀ {seen}, held.map key ⊆ seen → error.NamedIn (problems seen item)

/-- What stops the whole loop is listed. -/
theorem Follows.named {α β : Type} {id : α → String} {key : β → String}
    {problems : List String → α → List ConfigProblem}
    {step : List β → α → Except RegistryError (List β)} (hf : Follows id key problems step)
    {items : List α} {held : List β} {seen : List String} (hseen : held.map key ⊆ seen)
    {error : RegistryError} (h : items.foldlM step held = .error error) :
    error.NamedIn (eachAfter id problems seen items) := by
  -- The loop holds only what it has accepted, while the walk has seen every item so far. So the
  -- keys that are held stay among the ids that were seen, but they need not be equal.
  induction items generalizing held seen with
  | nil => cases h
  | cons item items ih =>
    rw [List.foldlM_cons] at h
    rw [eachAfter]
    rcases bind_eq_error.mp h with h | ⟨next, hnext, h⟩
    · exact (hf.stops h hseen).left _
    · refine (ih ?_ h).right _
      rw [hf.gathers hnext]
      intro other hm
      rcases List.mem_append.mp hm with hm | hm
      · exact List.mem_cons_of_mem _ (hseen hm)
      · rw [List.mem_singleton.mp hm]
        exact List.mem_cons_self

theorem named_ofTemplate {ruleId checkId : String} (field : String) {text : Option String}
    {error : RegistryError} (h : RuleRegistry.compileTemplate ruleId checkId text = .error error) :
    error.NamedIn (ofTemplate ruleId checkId field text) := by
  cases text with
  | none => cases h
  | some written =>
    rw [RuleRegistry.compileTemplate] at h
    rw [ofTemplate]
    cases hread : Template.parse written with
    | ok template =>
      rw [hread] at h
      cases h
    | error cause =>
      rw [hread] at h
      cases h
      exact ⟨_, List.mem_singleton.mpr rfl, .invalidTemplate ..⟩

theorem follows_ofCheck (ruleId : String) :
    Follows (·.id) (·.id) (ofCheck ruleId) (RuleRegistry.addCheck ruleId) where
  gathers hnext := by
    obtain ⟨entry, hc, -, rfl⟩ := (RuleRegistry.addCheck_ok_iff ..).mp hnext
    rw [List.map_append, List.map_singleton, hc.id]
  stops {held check error} h {seen} hseen := by
    rw [ofCheck_eq, ofMessages]
    rcases bind_eq_error.mp h with h | ⟨pass, -, h⟩
    · exact ((named_ofTemplate _ h).left _).right _
    rcases bind_eq_error.mp h with h | ⟨fail, -, h⟩
    · exact ((named_ofTemplate _ h).right _).right _
    · obtain ⟨hany, rfl⟩ := refuse_eq_error.mp h
      have hm : check.id ∈ held.map (·.id) := by simpa using hany
      exact (namedIn_repeated (.duplicateCheck ..) (hseen hm)).left _

theorem named_ofContents (knownLinks : List String) {rule : RuleConfig} {error : RegistryError}
    (h : RuleRegistry.compileRule rule = .error error) :
    error.NamedIn (ofContents knownLinks rule) := by
  rcases bind_eq_error.mp h with h | ⟨checks, -, h⟩
  · exact ((follows_ofCheck rule.id).named (List.nil_subset _) h).right _
  · cases h

theorem follows_ofRule (knownLinks : List String) :
    Follows (·.id) (·.id) (ofRule knownLinks) RuleRegistry.addRule where
  gathers hnext := by
    obtain ⟨entry, hc, -, rfl⟩ := (RuleRegistry.addRule_ok_iff ..).mp hnext
    rw [List.map_append, List.map_singleton, hc.id]
  stops {held rule error} h {seen} hseen := by
    rw [ofRule_eq]
    rcases bind_eq_error.mp h with h | ⟨compiled, -, h⟩
    · exact (named_ofContents knownLinks h).right _
    · obtain ⟨hany, rfl⟩ := refuse_eq_error.mp h
      have hm : rule.id ∈ held.map (·.id) := by simpa using hany
      exact (namedIn_repeated (.duplicateRule ..) (hseen hm)).left _

theorem follows_ofLink : Follows (·.id) (·.1) ofLink GuidanceRegistry.addLink where
  gathers hnext := by
    obtain ⟨entry, rfl, -, rfl⟩ := (GuidanceRegistry.addLink_ok_iff ..).mp hnext
    rw [List.map_append, List.map_singleton]
    rfl
  stops {held link error} h {seen} hseen := by
    rw [GuidanceRegistry.addLink] at h
    by_cases hany : held.any (·.1 == link.id) = true
    · rw [if_pos hany] at h
      cases h
      have hm : link.id ∈ held.map (·.1) := by simpa using hany
      exact namedIn_repeated (.duplicateLink ..) (hseen hm)
    · rw [if_neg hany] at h
      cases h

theorem named_ofKey {links : List LinkConfig} {ruleId key : String} {error : RegistryError}
    (h : GuidanceRegistry.resolveKey (links.map GuidanceRegistry.entryOf) ruleId key
      = .error error) : error.NamedIn (ofKey (links.map (·.id)) ruleId key) := by
  have hunknown : key ∉ links.map (·.id) := by
    rw [← GuidanceRegistry.ids_catalog, ← GuidanceRegistry.resolveKey_succeeds_iff ruleId]
    rintro ⟨link, hl⟩
    rw [hl] at h
    cases h
  have hc : ¬ (links.map (·.id)).contains key = true := by simpa using hunknown
  rw [ofKey, if_neg hc]
  refine ⟨_, List.mem_singleton.mpr rfl, ?_⟩
  rw [GuidanceRegistry.resolveKey] at h
  split at h
  · cases h
  · cases h
    exact .unknownLink ..

/-- An unknown key is a problem of its rule, wherever the rule stands. -/
theorem named_of_addRule {links : List LinkConfig} {rule : RuleConfig}
    {entries : List (String × List GuidanceLink)} {error : RegistryError}
    (h : GuidanceRegistry.addRule (links.map GuidanceRegistry.entryOf) entries rule
      = .error error) : error.NamedIn (ofContents (links.map (·.id)) rule) := by
  rcases bind_eq_error.mp h with h | ⟨found, -, h⟩
  · rcases bind_eq_error.mp h with h | ⟨resolved, -, h⟩
    · obtain ⟨key, hm, hkey⟩ := mapM_error h
      refine (named_ofKey hkey).mono ?_
      intro problem hp
      exact List.mem_append_left _ (List.mem_flatMap.mpr ⟨key, hm, hp⟩)
    · cases h
  · cases found <;> cases h

theorem named_of_compile {config : Config} {error : RegistryError}
    (h : Registries.compile config = .error error) :
    error.NamedIn (ofConfig (config.links.map (·.id)) config) := by
  rw [ofConfig]
  rcases bind_eq_error.mp h with h | ⟨rules, -, h⟩
  · rcases bind_eq_error.mp h with h | ⟨compiled, -, h⟩
    · exact ((follows_ofRule _).named (List.nil_subset _) h).right _
    · cases h
  rcases bind_eq_error.mp h with h | ⟨guidance, -, h⟩
  · rcases bind_eq_error.mp h with h | ⟨catalog, hcatalog, h⟩
    · exact (follows_ofLink.named (List.nil_subset _) h).left _
    rcases bind_eq_error.mp h with h | ⟨entries, -, h⟩
    · obtain ⟨-, rfl⟩ := GuidanceRegistry.catalog_ok_iff.mp hcatalog
      -- Keys are looked up after all rules were compiled, but listed with the rule they are in.
      obtain ⟨rule, hm, held, hrule⟩ := foldlM_error h
      refine ((named_of_addRule hrule).mono (subset_eachAfter ?_ hm)).right _
      intro seen
      rw [ofRule_eq]
      exact List.subset_append_right ..
    · cases h
  · cases h

/-! ## Where ids are distinct -/

/-- A problem inside a rule, not one between rules or between links. -/
def IsInside : ConfigProblem → Prop
  | unknownLink _ _ | duplicateCheck _ _ | invalidTemplate _ _ _ _ _ => True
  | duplicateRule _ | duplicateLink _ => False

theorem ofConfig_of_distinct (knownLinks : List String) {config : Config} (h : config.Distinct) :
    ofConfig knownLinks config = config.rules.flatMap (ofContents knownLinks) := by
  have hlinks : eachAfter (·.id) ofLink [] config.links = [] :=
    (eachAfter_eq_nil_iff ofLink_eq).mpr
      ⟨h.links, fun _ _ => List.not_mem_nil, fun _ _ => rfl⟩
  rw [ofConfig, hlinks, List.nil_append]
  exact eachAfter_of_nodup (ofRule_eq knownLinks) h.rules fun _ _ => List.not_mem_nil

theorem exists_of_mem_eachAfter {α : Type} {id : α → String}
    {problems : List String → α → List ConfigProblem} {seen : List String} {items : List α}
    {problem : ConfigProblem} (h : problem ∈ eachAfter id problems seen items) :
    ∃ before, ∃ item ∈ items, problem ∈ problems before item := by
  induction items generalizing seen with
  | nil => exact absurd h List.not_mem_nil
  | cons item items ih =>
    rw [eachAfter] at h
    rcases List.mem_append.mp h with h | h
    · exact ⟨seen, item, List.mem_cons_self, h⟩
    · obtain ⟨before, other, ho, hother⟩ := ih h
      exact ⟨before, other, List.mem_cons_of_mem _ ho, hother⟩

/-- Checks are not looked up anywhere. -/
theorem unknownLink_notMem_ofCheck {ruleId linkId owner : String} {seen : List String}
    {check : CheckConfig} : unknownLink ruleId linkId ∉ ofCheck owner seen check := by
  have htemplate : ∀ field text,
      unknownLink ruleId linkId ∉ ofTemplate owner check.id field text := by
    intro field text h
    unfold ofTemplate at h
    split at h
    · exact absurd h List.not_mem_nil
    · split at h
      · exact absurd h List.not_mem_nil
      · cases List.mem_singleton.mp h
  intro h
  rw [ofCheck, List.mem_append, List.mem_append] at h
  rcases h with (h | h) | h
  · simp [repeated] at h
  · exact htemplate _ _ h
  · exact htemplate _ _ h

/-- A key is called unknown exactly where a rule has it and it is not known. -/
theorem unknownLink_mem_iff {knownLinks : List String} {config : Config} {ruleId key : String} :
    unknownLink ruleId key ∈ ofConfig knownLinks config ↔
      ∃ rule ∈ config.rules, rule.id = ruleId ∧ key ∈ rule.guidance ∧ key ∉ knownLinks := by
  constructor
  · intro h
    rcases List.mem_append.mp h with h | h
    · obtain ⟨before, link, -, h⟩ := exists_of_mem_eachAfter h
      simp [ofLink, repeated] at h
    · obtain ⟨before, rule, hm, h⟩ := exists_of_mem_eachAfter h
      rw [ofRule_eq, ofContents, List.mem_append, List.mem_append] at h
      rcases h with h | h | h
      · simp [repeated] at h
      · obtain ⟨other, hother, h⟩ := List.mem_flatMap.mp h
        rw [ofKey] at h
        split at h
        · exact absurd h List.not_mem_nil
        · rename_i hunknown
          cases List.mem_singleton.mp h
          exact ⟨rule, hm, rfl, hother, by simpa using hunknown⟩
      · obtain ⟨earlier, check, -, h⟩ := exists_of_mem_eachAfter h
        exact absurd h unknownLink_notMem_ofCheck
  · rintro ⟨rule, hm, rfl, hkey, hunknown⟩
    have hc : ¬ knownLinks.contains key = true := by simpa using hunknown
    have hown : unknownLink rule.id key ∈ ofContents knownLinks rule := by
      refine List.mem_append_left _ (List.mem_flatMap.mpr ⟨key, hkey, ?_⟩)
      rw [ofKey, if_neg hc]
      exact List.mem_singleton.mpr rfl
    refine List.mem_append_right _ (subset_eachAfter ?_ hm hown)
    intro seen
    rw [ofRule_eq]
    exact List.subset_append_right ..

theorem isInside_of_mem_ofTemplate {ruleId checkId field : String} {text : Option String}
    {problem : ConfigProblem} (h : problem ∈ ofTemplate ruleId checkId field text) :
    problem.IsInside := by
  unfold ofTemplate at h
  split at h
  · exact absurd h List.not_mem_nil
  · split at h
    · exact absurd h List.not_mem_nil
    · rw [List.mem_singleton.mp h]
      trivial

theorem isInside_of_mem_ofCheck {ruleId : String} {seen : List String} {check : CheckConfig}
    {problem : ConfigProblem} (h : problem ∈ ofCheck ruleId seen check) : problem.IsInside := by
  rw [ofCheck, List.mem_append, List.mem_append, repeated] at h
  rcases h with (h | h) | h
  · split at h
    · rw [List.mem_singleton.mp h]
      trivial
    · exact absurd h List.not_mem_nil
  · exact isInside_of_mem_ofTemplate h
  · exact isInside_of_mem_ofTemplate h

theorem isInside_of_mem_ofContents {knownLinks : List String} {rule : RuleConfig}
    {problem : ConfigProblem} (h : problem ∈ ofContents knownLinks rule) : problem.IsInside := by
  rcases List.mem_append.mp h with h | h
  · obtain ⟨key, -, h⟩ := List.mem_flatMap.mp h
    unfold ofKey at h
    split at h
    · exact absurd h List.not_mem_nil
    · rw [List.mem_singleton.mp h]
      trivial
  · obtain ⟨before, check, -, h⟩ := exists_of_mem_eachAfter h
    exact isInside_of_mem_ofCheck h

/-- A configuration that defines each id once can only fail inside a rule. -/
theorem isInside_of_compile {config : Config} (hd : config.Distinct) {error : RegistryError}
    (h : Registries.compile config = .error error) :
    ∃ problem : ConfigProblem, error.Names problem ∧ problem.IsInside := by
  obtain ⟨problem, hm, hnames⟩ := named_of_compile h
  rw [ofConfig_of_distinct _ hd, List.mem_flatMap] at hm
  obtain ⟨rule, -, hm⟩ := hm
  exact ⟨problem, hnames, isInside_of_mem_ofContents hm⟩

end ConfigProblem

/-- **All problems and the first one.** No problem is listed if and only if the configuration
compiles, and an error of compilation speaks of a problem that is listed. A strict check lists the
same problems; its warnings stand apart from them. -/
theorem Config.problems_of_compile (config : Config) :
    (ConfigProblem.ofConfig (config.links.map (·.id)) config = [] ↔
        ∃ registries, Registries.compile config = .ok registries) ∧
      ∀ error, Registries.compile config = .error error →
        ∃ problem ∈ ConfigProblem.ofConfig (config.links.map (·.id)) config,
          error.Names problem :=
  ⟨ConfigProblem.ofConfig_eq_nil_iff.trans Registries.compile_succeeds_iff.symm,
    fun _ h => ConfigProblem.named_of_compile h⟩

/-- A configuration with a problem of every kind, some of them in a rule that is there already. -/
def Config.tangled : Config where
  rules := [
    { id := "alt",
      checks := [{ id := "has-alt" }, { id := "has-alt", failMessage := "\x7bdata" }] },
    { id := "alt", guidance := ["HANDBOOK", "NOWHERE"] }]
  links := [
    { id := "HANDBOOK", text := "Handbook", href := "https://old.example" },
    { id := "HANDBOOK", text := "Handbook", href := "https://new.example" }]

theorem Config.problems_of_tangled :
    (ConfigProblem.ofConfig ["HANDBOOK", "HANDBOOK"] tangled).length = 5 ∧
      (¬ ∃ registries, Registries.compile tangled = .ok registries) ∧
      Registries.compile tangled
        = .error (.invalidTemplate "alt" "has-alt" "\x7bdata" .unbalancedBrace) ∧
      ∃ problem ∈ ConfigProblem.ofConfig ["HANDBOOK", "HANDBOOK"] tangled,
        (RegistryError.invalidTemplate "alt" "has-alt" "\x7bdata" .unbalancedBrace).Names
          problem := by
  obtain ⟨hiff, hnamed⟩ := problems_of_compile tangled
  have hlength : (ConfigProblem.ofConfig ["HANDBOOK", "HANDBOOK"] tangled).length = 5 := by
    decide +kernel
  have herror : Registries.compile tangled
      = .error (.invalidTemplate "alt" "has-alt" "\x7bdata" .unbalancedBrace) := by rfl
  refine ⟨hlength, fun hok => ?_, herror, hnamed _ herror⟩
  rw [show ConfigProblem.ofConfig ["HANDBOOK", "HANDBOOK"] tangled = []
    from hiff.mpr hok] at hlength
  cases hlength

end AccessReport
