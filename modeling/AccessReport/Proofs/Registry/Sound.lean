import AccessReport.Proofs.Config.Algebra
import AccessReport.Proofs.Registry.Compiled
/-!
# Sound configurations

What a configuration has to be for it to compile, said without compiling it.

* `RuleRegistry.compile_succeeds_iff`, `GuidanceRegistry.compile_succeeds_iff`: what each of the
  registries asks for.
* `Registries.compile_succeeds_iff`: a configuration compiles if and only if it is sound for the
  links that it defines itself.
* `Registries.size_compile`, `Registries.get?_of_mem`: nothing that is configured gets lost.
-/
namespace AccessReport

/-- A text, if there is one, is a template. -/
def Template.Readable (text : Option String) : Prop :=
  ∀ written, text = some written → ∃ template, Template.parse written = .ok template

/-- The messages of a check are templates. -/
structure CheckConfig.Sound (check : CheckConfig) : Prop where
  pass : Template.Readable check.passMessage
  fail : Template.Readable check.failMessage

/-- A rule refers to known links only and defines each of its checks once, with templates. -/
structure RuleConfig.Sound (known : List String) (rule : RuleConfig) : Prop where
  keys : ∀ key ∈ rule.guidance, key ∈ known
  distinct : (rule.checks.map (·.id)).Nodup
  checks : ∀ check ∈ rule.checks, check.Sound

/-- A configuration defines each id once, and its rules are sound. -/
structure Config.Sound (known : List String) (config : Config) : Prop extends Distinct config where
  each : ∀ rule ∈ config.rules, rule.Sound known

/-! ## Rules -/

theorem Template.readable_iff {text : Option String} :
    Readable text ↔ ∃ template, ReadsAs text template := by
  constructor
  · intro h
    cases text with
    | none => exact ⟨none, .none⟩
    | some written =>
      obtain ⟨template, ht⟩ := h written rfl
      exact ⟨some template, .some ht⟩
  · rintro ⟨template, hreads⟩ written rfl
    cases hreads with
    | some ht => exact ⟨_, ht⟩

theorem CheckConfig.compiles_iff {config : CheckConfig} :
    (∃ check, config.Compiles check) ↔ config.Sound := by
  constructor
  · rintro ⟨check, hc⟩
    exact ⟨Template.readable_iff.mpr ⟨_, hc.pass⟩, Template.readable_iff.mpr ⟨_, hc.fail⟩⟩
  · intro h
    obtain ⟨pass, hpass⟩ := Template.readable_iff.mp h.pass
    obtain ⟨fail, hfail⟩ := Template.readable_iff.mp h.fail
    exact ⟨{ id := config.id, pass, fail }, rfl, hpass, hfail⟩

theorem RuleConfig.compiles_iff {config : RuleConfig} :
    (∃ rule, config.Compiles rule) ↔
      (config.checks.map (·.id)).Nodup ∧ ∀ check ∈ config.checks, check.Sound := by
  simp only [← CheckConfig.compiles_iff, ← exists_forall₂_iff]
  constructor
  · rintro ⟨rule, hr⟩
    exact ⟨hr.distinct, rule.checks, hr.checks⟩
  · rintro ⟨hn, checks, hc⟩
    exact ⟨{ config with checks }, rfl, rfl, rfl, rfl, rfl, rfl, hc, hn⟩

theorem RuleRegistry.compile_succeeds_iff {configs : List RuleConfig} :
    (∃ registry, compile configs = .ok registry) ↔
      (configs.map (·.id)).Nodup ∧ ∀ config ∈ configs,
        (config.checks.map (·.id)).Nodup ∧ ∀ check ∈ config.checks, check.Sound := by
  simp only [compile_ok_iff, ← RuleConfig.compiles_iff, ← exists_forall₂_iff]
  constructor
  · rintro ⟨registry, hf, hn⟩
    exact ⟨hn, registry.rules, hf⟩
  · rintro ⟨hn, rules, hf⟩
    exact ⟨⟨rules⟩, hf, hn⟩

/-! ## Guidance -/

namespace GuidanceRegistry

/-- The entry of a link in the catalog. -/
def entryOf (link : LinkConfig) : String × GuidanceLink := (link.id, link.toGuidanceLink)

theorem addLink_ok_iff (held : List (String × GuidanceLink)) (link : LinkConfig)
    (next : List (String × GuidanceLink)) :
    addLink held link = .ok next ↔
      ∃ entry, entryOf link = entry ∧ entry.1 ∉ held.map (·.1) ∧ next = held ++ [entry] := by
  unfold addLink
  rw [exists_eq_left']
  by_cases hm : link.id ∈ held.map (·.1)
  · have hany : held.any (·.1 == link.id) = true := by simpa using hm
    rw [if_pos hany]
    constructor
    · intro h
      cases h
    · rintro ⟨hnew, -⟩
      exact absurd hm hnew
  · have hany : ¬ held.any (·.1 == link.id) = true := by simpa using hm
    rw [if_neg hany, Except.ok.injEq, eq_comm]
    exact (and_iff_right hm).symm

theorem ids_catalog (links : List LinkConfig) :
    (links.map entryOf).map (·.1) = links.map (·.id) := by
  rw [List.map_map]
  rfl

/-- The catalog of links that all have different ids. -/
theorem catalog_ok_iff {links : List LinkConfig} {catalog : List (String × GuidanceLink)} :
    links.foldlM addLink [] = .ok catalog ↔
      (links.map (·.id)).Nodup ∧ links.map entryOf = catalog := by
  rw [foldlM_gather_nil_ok_iff addLink_ok_iff, ← List.forall₂_map_left_iff (f := entryOf),
    List.forall₂_eq_eq_eq, and_comm]
  refine and_congr_left fun hc => ?_
  rw [← hc, ids_catalog]

theorem resolveKey_succeeds_iff {catalog : List (String × GuidanceLink)} (ruleId : String)
    {key : String} :
    (∃ link, resolveKey catalog ruleId key = .ok link) ↔ key ∈ catalog.map (·.1) := by
  rw [← Grouping.isSome_lookup_iff, resolveKey]
  cases catalog.lookup key <;> simp

theorem resolveRule_succeeds_iff {catalog : List (String × GuidanceLink)} {rule : RuleConfig} :
    (∃ links, resolveRule catalog rule = .ok links) ↔
      ∀ key ∈ rule.guidance, key ∈ catalog.map (·.1) := by
  simp only [← resolveKey_succeeds_iff rule.id, ← exists_forall₂_iff, ← mapM_ok_iff]
  constructor
  · rintro ⟨links, h⟩
    obtain ⟨found, hf, -⟩ := bind_eq_ok.mp h
    exact ⟨found, hf⟩
  · rintro ⟨found, hf⟩
    exact ⟨_, bind_eq_ok.mpr ⟨found, hf, rfl⟩⟩

/-- The entries with those links of one more rule that were found for it. -/
def withFound (entries : List (String × List GuidanceLink)) (found : String × List GuidanceLink) :
    List (String × List GuidanceLink) :=
  match found.2 with
  | [] => entries
  | links => putEntry found.1 links entries

theorem addRule_ok_iff (catalog : List (String × GuidanceLink))
    (entries : List (String × List GuidanceLink)) (rule : RuleConfig)
    (next : List (String × List GuidanceLink)) :
    addRule catalog entries rule = .ok next ↔
      ∃ found : String × List GuidanceLink,
        (found.1 = rule.id ∧ resolveRule catalog rule = .ok found.2) ∧
          next = withFound entries found := by
  unfold addRule
  rw [bind_eq_ok]
  constructor
  · rintro ⟨links, hl, h⟩
    refine ⟨(rule.id, links), ⟨rfl, hl⟩, ?_⟩
    cases links with
    | nil => exact (Except.ok.inj h).symm
    | cons link links => exact (Except.ok.inj h).symm
  · rintro ⟨⟨ruleId, links⟩, ⟨rfl, hl⟩, rfl⟩
    refine ⟨links, hl, ?_⟩
    cases links <;> rfl

theorem entries_succeed_iff {catalog : List (String × GuidanceLink)} {rules : List RuleConfig} :
    (∃ entries, rules.foldlM (addRule catalog) [] = .ok entries) ↔
      ∀ rule ∈ rules, ∃ links, resolveRule catalog rule = .ok links := by
  simp only [foldlM_join_ok_iff (addRule_ok_iff catalog)]
  constructor
  · rintro ⟨entries, found, hf, -⟩ rule hr
    obtain ⟨part, -, hpart⟩ := exists_forall₂_iff.mp ⟨found, hf⟩ rule hr
    exact ⟨part.2, hpart⟩
  · intro h
    have hparts : ∀ rule ∈ rules, ∃ part : String × List GuidanceLink,
        part.1 = rule.id ∧ resolveRule catalog rule = .ok part.2 := by
      intro rule hr
      obtain ⟨links, hl⟩ := h rule hr
      exact ⟨(rule.id, links), rfl, hl⟩
    obtain ⟨found, hf⟩ := exists_forall₂_iff.mpr hparts
    exact ⟨_, found, hf, rfl⟩

theorem compile_succeeds_iff {rules : List RuleConfig} {links : List LinkConfig} :
    (∃ registry, compile rules links = .ok registry) ↔
      (links.map (·.id)).Nodup ∧
        ∀ rule ∈ rules, ∀ key ∈ rule.guidance, key ∈ links.map (·.id) := by
  simp only [← ids_catalog links, ← resolveRule_succeeds_iff, ← entries_succeed_iff]
  rw [ids_catalog]
  unfold compile
  constructor
  · rintro ⟨registry, h⟩
    obtain ⟨catalog, hc, h⟩ := bind_eq_ok.mp h
    obtain ⟨hn, rfl⟩ := catalog_ok_iff.mp hc
    obtain ⟨entries, hentries, -⟩ := bind_eq_ok.mp h
    exact ⟨hn, entries, hentries⟩
  · rintro ⟨hn, entries, hentries⟩
    exact ⟨⟨entries⟩, bind_eq_ok.mpr ⟨_, catalog_ok_iff.mpr ⟨hn, rfl⟩,
      bind_eq_ok.mpr ⟨entries, hentries, rfl⟩⟩⟩

end GuidanceRegistry

/-! ## Registries -/

namespace Registries

/-- A configuration compiles if and only if it is sound for its own links. -/
theorem compile_succeeds_iff {config : Config} :
    (∃ registries, compile config = .ok registries) ↔
      config.Sound (config.links.map (·.id)) := by
  have hparts : (∃ registries, compile config = .ok registries) ↔
      (∃ rules, RuleRegistry.compile config.rules = .ok rules) ∧
        ∃ guidance, GuidanceRegistry.compile config.rules config.links = .ok guidance := by
    simp only [compile_ok_iff]
    constructor
    · rintro ⟨registries, hr, hg, -⟩
      exact ⟨⟨_, hr⟩, _, hg⟩
    · rintro ⟨⟨rules, hr⟩, guidance, hg⟩
      exact ⟨⟨rules, guidance, _⟩, hr, hg, rfl⟩
  rw [hparts, RuleRegistry.compile_succeeds_iff, GuidanceRegistry.compile_succeeds_iff]
  constructor
  · rintro ⟨⟨hr, hchecks⟩, hl, hkeys⟩
    exact ⟨⟨hr, hl⟩, fun rule hm => ⟨hkeys rule hm, (hchecks rule hm).1, (hchecks rule hm).2⟩⟩
  · intro h
    exact ⟨⟨h.rules, fun rule hm => ⟨(h.each rule hm).distinct, (h.each rule hm).checks⟩⟩,
      h.links, fun rule hm => (h.each rule hm).keys⟩

section
variable {config : Config} {registries : Registries} (h : compile config = .ok registries)

include h in
/-- Each configured rule becomes one compiled rule. -/
theorem size_compile : registries.rules.size = config.rules.length := by
  have hr := ((compile_ok_iff config registries).mp h).1
  exact ((RuleRegistry.compile_ok_iff _ _).mp hr).1.length_eq.symm

include h in
/-- Each configured rule is found again under its id. -/
theorem get?_of_mem {rule : RuleConfig} (hm : rule ∈ config.rules) :
    ∃ compiled, registries.rules.get? rule.id = some compiled ∧ rule.Compiles compiled := by
  have hsound := compile_succeeds_iff.mp ⟨registries, h⟩
  have hfound : config.rule? rule.id = some rule := Merge.find?_of_mem hsound.rules hm
  have hrel := get?_compile h rule.id
  rw [hfound] at hrel
  generalize registries.rules.get? rule.id = compiled at hrel
  cases hrel with
  | some hc => exact ⟨_, rfl, hc⟩

end

end Registries
end AccessReport
