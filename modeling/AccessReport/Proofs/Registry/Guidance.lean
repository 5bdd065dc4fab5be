import AccessReport.Proofs.Registry.Sound
/-!
# Guidance found for a rule

Compilation goes over the rules and enters for each one the links that its keys name, unless there
are none. Where the rules have distinct ids no entry takes the place of another one, so the links
found for a rule are those that the configuration gives to it.

* `lookup_foldl_withFound`: what the entries of distinct rules hold.
* `eq_of_resolveRule`: the links of one rule.
* `Registries.linksFor?_compile`: guidance is what the configuration says it is.
-/
namespace AccessReport

namespace Config

/-- The first link with the id. -/
def link? (config : Config) (key : String) : Option LinkConfig :=
  config.links.find? (·.id == key)

/-- The links that a rule refers to: those of its keys in their order, then the synthetic one. -/
def linksOf (config : Config) (rule : RuleConfig) : List GuidanceLink :=
  rule.guidance.filterMap (fun key => (config.link? key).map LinkConfig.toGuidanceLink)
    ++ if rule.bestPractice then [.bestPractice] else []

/-- The guidance of a rule. A rule without links has none. -/
def guidance? (config : Config) (ruleId : String) : Option (List GuidanceLink) :=
  ((config.rule? ruleId).map config.linksOf).filter (!·.isEmpty)

end Config

namespace GuidanceRegistry

/-! ## Entries -/

theorem lookup_putEntry (ruleId : String) (links : List GuidanceLink)
    (entries : List (String × List GuidanceLink)) (other : String) :
    (putEntry ruleId links entries).lookup other
      = if other = ruleId then some links else entries.lookup other := by
  induction entries with
  | nil => rw [putEntry, Grouping.lookup_cons_eq]
  | cons entry rest ih =>
    rw [putEntry]
    split
    · rename_i hid
      rw [Grouping.lookup_cons_eq, Grouping.lookup_cons_eq, hid]
      split <;> rfl
    · rename_i hid
      rw [Grouping.lookup_cons_eq, Grouping.lookup_cons_eq, ih]
      by_cases ho : other = entry.1
      · rw [if_pos ho, if_pos ho, if_neg fun he => hid (ho.symm.trans he)]
      · rw [if_neg ho, if_neg ho]

theorem lookup_withFound (entries : List (String × List GuidanceLink))
    (found : String × List GuidanceLink) (ruleId : String) :
    (withFound entries found).lookup ruleId
      = if ruleId = found.1 ∧ found.2 ≠ [] then some found.2 else entries.lookup ruleId := by
  obtain ⟨key, links⟩ := found
  cases links with
  | nil => simp [withFound]
  | cons link links => simpa [withFound] using lookup_putEntry key (link :: links) entries ruleId

/-- The entries of rules with distinct ids, each found under its own. -/
theorem lookup_foldl_withFound {found : List (String × List GuidanceLink)}
    (hn : (found.map (·.1)).Nodup) (entries : List (String × List GuidanceLink))
    (ruleId : String) :
    (found.foldl withFound entries).lookup ruleId
      = (((found.find? (·.1 == ruleId)).map (·.2)).filter (!·.isEmpty)).or
          (entries.lookup ruleId) := by
  induction found generalizing entries with
  | nil => rfl
  | cons first rest ih =>
    rw [List.map_cons, List.nodup_cons] at hn
    rw [List.foldl_cons, ih hn.2, lookup_withFound, List.find?_cons]
    by_cases hid : first.1 = ruleId
    · -- No other rule has this id, so that what follows leaves the entry alone.
      have hrest : rest.find? (·.1 == ruleId) = none := by
        rw [Merge.find?_eq_none_iff, ← hid]
        exact hn.1
      rw [hrest, hid, beq_self_eq_true, Option.map_none, Option.filter_none, Option.none_or,
        Option.map_some, Option.filter_some]
      by_cases hlinks : first.2 = [] <;> simp [hlinks]
    · have hne : (first.1 == ruleId) = false := beq_eq_false_iff_ne.mpr hid
      rw [hne, if_neg fun hc => hid hc.1.symm]

/-! ## Links -/

theorem lookup_catalog (links : List LinkConfig) (key : String) :
    (links.map entryOf).lookup key
      = (links.find? (·.id == key)).map LinkConfig.toGuidanceLink := by
  induction links with
  | nil => rfl
  | cons link links ih =>
    rw [List.map_cons, Grouping.lookup_cons_eq, List.find?_cons, ih]
    by_cases hk : key = link.id
    · simp [entryOf, hk]
    · have hne : (link.id == key) = false := beq_eq_false_iff_ne.mpr (Ne.symm hk)
      have hkey : ¬ key = (entryOf link).1 := hk
      rw [if_neg hkey, hne]

theorem resolveKey_ok_iff {catalog : List (String × GuidanceLink)} {ruleId key : String}
    {link : GuidanceLink} :
    resolveKey catalog ruleId key = .ok link ↔ catalog.lookup key = some link := by
  unfold resolveKey
  cases catalog.lookup key <;> simp

/-- Links that are found for keys one by one are all links that there are for them. -/
theorem filterMap_of_forall₂ {α β : Type} {find : α → Option β} {keys : List α} {found : List β}
    (h : List.Forall₂ (fun key item => find key = some item) keys found) :
    keys.filterMap find = found := by
  induction h with
  | nil => rfl
  | cons hfind rest ih => rw [List.filterMap_cons, hfind, ih]

theorem eq_of_resolveRule {catalog : List (String × GuidanceLink)} {rule : RuleConfig}
    {links : List GuidanceLink} (h : resolveRule catalog rule = .ok links) :
    links = rule.guidance.filterMap (List.lookup · catalog)
      ++ if rule.bestPractice then [.bestPractice] else [] := by
  obtain ⟨found, hfound, hlinks⟩ := bind_eq_ok.mp h
  cases hlinks
  rw [mapM_ok_iff] at hfound
  simp only [resolveKey_ok_iff] at hfound
  rw [filterMap_of_forall₂ hfound]

end GuidanceRegistry

/-! ## Registries -/

open GuidanceRegistry

/-- The guidance that is found for a rule is what the configuration gives to it. -/
theorem Registries.linksFor?_compile {config : Config} {registries : Registries}
    (h : compile config = .ok registries) (ruleId : String) :
    registries.guidance.linksFor? ruleId = config.guidance? ruleId := by
  have hsound := compile_succeeds_iff.mp ⟨registries, h⟩
  obtain ⟨-, hguidance, -⟩ := (compile_ok_iff config registries).mp h
  obtain ⟨catalog, hcatalog, hrest⟩ := bind_eq_ok.mp hguidance
  obtain ⟨-, rfl⟩ := catalog_ok_iff.mp hcatalog
  obtain ⟨entries, hentries, hregistry⟩ := bind_eq_ok.mp hrest
  obtain ⟨found, hfound, rfl⟩ := (foldlM_join_ok_iff (addRule_ok_iff _) _ _ _).mp hentries
  have hids : config.rules.map (·.id) = found.map (·.1) :=
    map_eq_of_forall₂ (fun _ _ hf => hf.1.symm) hfound
  have hlookup : registries.guidance.linksFor? ruleId
      = ((found.find? (·.1 == ruleId)).map (·.2)).filter (!·.isEmpty) := by
    rw [← Except.ok.inj hregistry, linksFor?, lookup_foldl_withFound (hids ▸ hsound.rules)]
    simp
  have hrel := find?_forall₂ (p := (·.id == ruleId)) (q := (·.1 == ruleId))
    (fun _ _ hf => by rw [hf.1]) hfound
  have hlinks : ∀ rule links, resolveRule (config.links.map entryOf) rule = .ok links →
      links = config.linksOf rule := by
    intro rule links hresolve
    rw [eq_of_resolveRule hresolve]
    simp only [lookup_catalog, Config.linksOf, Config.link?]
  rw [hlookup, Config.guidance?, Config.rule?]
  generalize config.rules.find? (·.id == ruleId) = rule, found.find? (·.1 == ruleId) = entry
    at hrel
  cases hrel with
  | none => rfl
  | @some rule entry hf => rw [Option.map_some, Option.map_some, hlinks rule entry.2 hf.2]

end AccessReport
