import AccessReport.Config.Printer
import AccessReport.Config.Text
import AccessReport.Proofs.Config.Written
import AccessReport.Proofs.Toml.Sections
/-!
# Printed configurations

A printed configuration is read as the same configuration. Its text spells the keys of the root, the
table of the defaults, the tables of the rules and links with those of their checks and tags behind
them, and the table of the suppression; each of these finds its place, since no table is opened
again once another one is written. An empty list of rules or links has no table to stand for it and
is a key of the root instead, which is why a name can be a key or a list of tables but never both.

* `proper_rootKeys`, `proper_sections`: no key needs quotes, and none is repeated.
* `builds`: the sections build the entries of the configuration.
* `read?_toToml`: the document that the text stands for.
* `ofToml?_toToml`: the configuration comes back.
-/
namespace AccessReport

open Document Json Fields Toml

/-! ## Keys of records -/

namespace Toml

/-- The members that the keys of a table stand for. -/
def jsonOf (keys : List (String × Plain)) : List (String × Json) :=
  keys.map fun key => (key.1, key.2.value)

theorem jsonOf_append (keys more : List (String × Plain)) :
    jsonOf (keys ++ more) = jsonOf keys ++ jsonOf more := List.map_append

theorem jsonOf_keyIfSome (key : String) (held : Option String) :
    jsonOf (keyIfSome key held) = memberIfSome key .string held := by
  cases held <;> rfl

theorem jsonOf_keyIfAny (key : String) (texts : List String) :
    jsonOf (keyIfAny key texts) = memberIfAny key .string texts := by
  cases texts <;> rfl

theorem lookup_emptyList {α : Type} (key : String) (items : List α) (name : String) :
    (jsonOf (emptyList key items)).lookup name
      = if name = key then (if items = [] then some (.array []) else none) else none := by
  cases items with
  | nil => exact lookup_member key (.array []) name
  | cons item items => simp [emptyList, jsonOf]

/-- A list is read from the key of an empty one, or from its tables. -/
theorem readOr_emptyList {α : Type} {read? : Document → Option α} {write : α → Json}
    {items : List α} (h : ∀ item ∈ items, read? (ofJson (write item)) = some item) :
    readOr [] (list? read?) ((if items = [] then some (.array []) else none).or
      (if items = [] then none else some (.array (items.map write)))) = some items := by
  by_cases hnil : items = []
  · rw [if_pos hnil, hnil]
    rfl
  · rw [if_neg hnil, if_neg hnil, Option.none_or]
    exact list?_written h

theorem memberIfSome_map {α : Type} (key : String) (name : α → String) (held : Option α) :
    memberIfSome key .string (held.map name)
      = memberIfSome key (fun value => .string (name value)) held := by
  cases held <;> rfl

/-- The document of a table is the one of the object with its members. -/
theorem object_valuesOf (keys : List (String × Plain)) :
    Document.object (membersOf (valuesOf keys)) = ofJson (.object (jsonOf keys)) := by
  rw [membersOf_valuesOf, ofJson_object, jsonOf, List.map_map]
  rfl

theorem membersOf_withTables {α : Type} {write : α → Json} {entries : α → Entries} {items : List α}
    (h : ∀ item ∈ items, Document.object (membersOf (entries item)) = ofJson (write item))
    (key : String) (before : Entries) :
    membersOf (withTables key before (items.map entries))
      = membersOf before ++ (memberIfAny key write items).map fun member =>
          (member.1, ofJson member.2) := by
  cases items with
  | nil => simp [withTables, memberIfAny]
  | cons item items =>
    have hobjects : objectsOf ((item :: items).map entries)
        = ((item :: items).map write).map ofJson := by
      rw [objectsOf_eq, List.map_map, List.map_map]
      exact List.map_congr_left h
    have hmember : memberIfAny key write (item :: items)
        = member key (.array ((item :: items).map write)) := rfl
    rw [withTables, if_neg (by simp), membersOf_append, membersOf, membersOf, Item.toDocument,
      hobjects, hmember, member, List.map_singleton, ofJson_array]

/-- The document of a table with a list of tables behind its keys. -/
theorem object_withTables {α : Type} {write : α → Json} {entries : α → Entries} {items : List α}
    (h : ∀ item ∈ items, Document.object (membersOf (entries item)) = ofJson (write item))
    (key : String) (keys : List (String × Plain)) :
    Document.object (membersOf (withTables key (valuesOf keys) (items.map entries)))
      = ofJson (.object (jsonOf keys ++ memberIfAny key write items)) := by
  rw [membersOf_withTables h, membersOf_valuesOf, ofJson_object, List.map_append, jsonOf,
    List.map_map]
  rfl

/-! ## Names of keys -/

theorem listed_key (key : String) (value : Plain) : Listed [key] [(key, value)] :=
  List.Sublist.refl _

theorem listed_keyIfSome (key : String) (held : Option String) :
    Listed [key] (keyIfSome key held) := by
  cases held with
  | none => exact List.nil_sublist _
  | some _ => exact List.Sublist.refl _

theorem listed_keyIfAny (key : String) (texts : List String) :
    Listed [key] (keyIfAny key texts) := by
  cases texts with
  | nil => exact List.nil_sublist _
  | cons _ _ => exact List.Sublist.refl _

theorem listed_emptyList {α : Type} (key : String) (items : List α) :
    Listed [key] (emptyList key items) := by
  cases items with
  | nil => exact List.Sublist.refl _
  | cons _ _ => exact List.nil_sublist _

end Toml

/-! ## Tables of a configuration -/

theorem Defaults.proper_keys (defaults : Defaults) : Proper defaults.toSection.keys :=
  .of_listed ((listed_keyIfSome "title" _).append (listed_keyIfSome "mode" _)) (by decide)
    (by decide)

theorem Defaults.object_entries (defaults : Defaults) :
    Document.object (membersOf (valuesOf defaults.toSection.keys)) = ofJson defaults.toJson := by
  rw [object_valuesOf, toJson]
  simp only [toSection, jsonOf_append, jsonOf_keyIfSome, memberIfSome_map]

theorem SuppressionConfig.proper_keys (suppression : SuppressionConfig) :
    Proper suppression.toSection.keys :=
  .of_listed (listed_keyIfAny "messages" _) (by decide) (by decide)

theorem SuppressionConfig.object_entries (suppression : SuppressionConfig) :
    Document.object (membersOf (valuesOf suppression.toSection.keys))
      = ofJson suppression.toJson := by
  rw [object_valuesOf, toJson, toSection, jsonOf_keyIfAny]

namespace CheckConfig

theorem proper_keys (check : CheckConfig) : Proper check.toSection.keys :=
  .of_listed (((listed_key "id" _).append
    (listed_keyIfSome "pass_message" _)).append (listed_keyIfSome "fail_message" _)) (by decide)
    (by decide)

theorem object_entries (check : CheckConfig) :
    Document.object (membersOf (valuesOf check.toSection.keys)) = ofJson check.toJson := by
  rw [object_valuesOf, toJson]
  simp only [toSection, jsonOf_append, jsonOf_keyIfSome]
  rfl

end CheckConfig

namespace RuleConfig

/-- The table of a rule with the tables of its checks. -/
def entries (rule : RuleConfig) : Entries :=
  withTables "check" (valuesOf rule.toSection.keys)
    (rule.checks.map fun check => valuesOf check.toSection.keys)

theorem listed_keys (rule : RuleConfig) :
    Listed ["id", "description", "help", "help_url", "decorate_node", "how_to_check", "guidance",
      "best_practice"] rule.toSection.keys :=
  (((((((listed_key "id" _).append
    (listed_keyIfSome "description" _)).append (listed_keyIfSome "help" _)).append
    (listed_keyIfSome "help_url" _)).append (listed_keyIfSome "decorate_node" _)).append
    (listed_key "how_to_check" _)).append (listed_keyIfAny "guidance" _)).append
    (listed_key "best_practice" _)

theorem proper_keys (rule : RuleConfig) : Proper rule.toSection.keys :=
  .of_listed rule.listed_keys (by decide) (by decide)

theorem object_entries (rule : RuleConfig) :
    Document.object (membersOf rule.entries) = ofJson rule.toJson := by
  rw [entries, object_withTables fun check _ => check.object_entries, toJson]
  simp only [toSection, jsonOf_append, jsonOf_keyIfSome, jsonOf_keyIfAny, memberIfSome_map]
  rfl

theorem proper_sections (rule : RuleConfig) : ∀ part ∈ rule.toSections, part.Proper := by
  rw [toSections, List.forall_mem_cons, List.forall_mem_map]
  exact ⟨⟨(by decide : BarePath ["rule"]), rule.proper_keys⟩,
    fun check _ => ⟨(by decide : BarePath ["rule", "check"]), check.proper_keys⟩⟩

/-- The sections of a rule build one more element of the list of rules. -/
theorem builds (rule : RuleConfig) {before : Entries} (h : "rule" ∉ before.map (·.1))
    (elements : List Entries) :
    Builds (rule.toSections.flatMap Section.statements) (withTables "rule" before elements)
      (withTables "rule" before (elements ++ [rule.entries])) := by
  have hcheck : "check" ∉ rule.toSection.keys.map (·.1) := fun hm =>
    absurd (rule.listed_keys.subset hm) (by decide)
  have hbuilds := Builds.nested h rule.proper_keys hcheck
    (fun check (_ : check ∈ rule.checks) => check.proper_keys) elements
  rw [toSections, List.flatMap_cons, List.flatMap_map]
  exact hbuilds

end RuleConfig

theorem LinkTagConfig.proper_keys (tag : LinkTagConfig) : Proper tag.toSection.keys :=
  .of_listed (.refl ["id", "display_text"]) (by decide) (by decide)

namespace LinkConfig

/-- The table of a link with the tables of its tags. -/
def entries (link : LinkConfig) : Entries :=
  withTables "tags" (valuesOf link.toSection.keys)
    (link.tags.map fun tag => valuesOf tag.toSection.keys)

theorem listed_keys (link : LinkConfig) : Listed ["id", "text", "href"] link.toSection.keys :=
  .refl _

theorem proper_keys (link : LinkConfig) : Proper link.toSection.keys :=
  .of_listed link.listed_keys (by decide) (by decide)

theorem object_entries (link : LinkConfig) :
    Document.object (membersOf link.entries) = ofJson link.toJson := by
  have htags : ∀ tag ∈ link.tags,
      Document.object (membersOf (valuesOf tag.toSection.keys)) = ofJson tag.toJson := fun tag _ =>
    object_valuesOf tag.toSection.keys
  rw [entries, object_withTables htags, toJson]
  rfl

theorem proper_sections (link : LinkConfig) : ∀ part ∈ link.toSections, part.Proper := by
  rw [toSections, List.forall_mem_cons, List.forall_mem_map]
  exact ⟨⟨(by decide : BarePath ["link"]), link.proper_keys⟩,
    fun tag _ => ⟨(by decide : BarePath ["link", "tags"]), tag.proper_keys⟩⟩

/-- The sections of a link build one more element of the list of links. -/
theorem builds (link : LinkConfig) {before : Entries} (h : "link" ∉ before.map (·.1))
    (elements : List Entries) :
    Builds (link.toSections.flatMap Section.statements) (withTables "link" before elements)
      (withTables "link" before (elements ++ [link.entries])) := by
  have htags : "tags" ∉ link.toSection.keys.map (·.1) := fun hm =>
    absurd (link.listed_keys.subset hm) (by decide)
  have hbuilds := Builds.nested h link.proper_keys htags
    (fun tag (_ : tag ∈ link.tags) => tag.proper_keys) elements
  rw [toSections, List.flatMap_cons, List.flatMap_map]
  exact hbuilds

end LinkConfig

/-! ## Whole configurations -/

namespace Config

/-- The keys of the root: the files that are included, and the lists without a table. -/
def rootKeys (config : Config) : List (String × Plain) :=
  keyIfAny "includes" config.includes ++ emptyList "rule" config.rules
    ++ emptyList "link" config.links

def sections (config : Config) : List Section :=
  config.defaults.toSection :: config.rules.flatMap (·.toSections)
    ++ config.links.flatMap (·.toSections) ++ [config.suppression.toSection]

theorem toToml_eq (config : Config) : config.toToml = write config.rootKeys config.sections := rfl

theorem listed_rootKeys (config : Config) :
    Listed ["includes", "rule", "link"] config.rootKeys :=
  ((listed_keyIfAny "includes" _).append (listed_emptyList "rule" _)).append
    (listed_emptyList "link" _)

theorem proper_rootKeys (config : Config) : Proper config.rootKeys :=
  .of_listed config.listed_rootKeys (by decide) (by decide)

theorem proper_sections (config : Config) : ∀ part ∈ config.sections, part.Proper := by
  have hdefaults : config.defaults.toSection.Proper :=
    ⟨(by decide : BarePath ["defaults"]), config.defaults.proper_keys⟩
  have hsuppression : config.suppression.toSection.Proper :=
    ⟨(by decide : BarePath ["suppression"]), config.suppression.proper_keys⟩
  rw [sections, List.forall_mem_append, List.forall_mem_append, List.forall_mem_cons,
    List.forall_mem_singleton, List.forall_mem_flatMap, List.forall_mem_flatMap]
  exact ⟨⟨⟨hdefaults, fun rule _ => rule.proper_sections⟩, fun link _ => link.proper_sections⟩,
    hsuppression⟩

/-- The keys of the root and the table of the defaults, which come before all lists of tables. -/
def headEntries (config : Config) : Entries :=
  valuesOf config.rootKeys
    ++ [("defaults", .table .header (valuesOf config.defaults.toSection.keys))]

/-- The entries with the rules and links behind them. -/
def listEntries (config : Config) : Entries :=
  withTables "link"
    (withTables "rule" config.headEntries (config.rules.map RuleConfig.entries))
    (config.links.map LinkConfig.entries)

/-- All that the text of a configuration builds. -/
def entries (config : Config) : Entries :=
  config.listEntries
    ++ [("suppression", .table .header (valuesOf config.suppression.toSection.keys))]

theorem listed_headEntries {names : List String} {config : Config}
    (h : Listed names config.rootKeys) : Listed (names ++ ["defaults"]) config.headEntries :=
  (listed_valuesOf h).append (.refl _)

/-- Only a configuration without rules has a key for them at the root. -/
theorem rule_notMem_headEntries {config : Config} (h : config.rules ≠ []) :
    "rule" ∉ config.headEntries.map (·.1) := by
  have hnone : emptyList "rule" config.rules = [] := if_neg (by simpa using h)
  have hkeys : Listed ["includes", "link"] config.rootKeys := by
    rw [rootKeys, hnone, List.append_nil]
    exact (listed_keyIfAny "includes" _).append (listed_emptyList "link" _)
  exact (listed_headEntries hkeys).notMem (by decide)

theorem link_notMem_ruleEntries {config : Config} (h : config.links ≠ []) :
    "link" ∉ (withTables "rule" config.headEntries
      (config.rules.map RuleConfig.entries)).map (·.1) := by
  have hnone : emptyList "link" config.links = [] := if_neg (by simpa using h)
  have hkeys : Listed ["includes", "rule"] config.rootKeys := by
    rw [rootKeys, hnone, List.append_nil]
    exact (listed_keyIfAny "includes" _).append (listed_emptyList "rule" _)
  exact (listed_withTables (listed_headEntries hkeys) "rule" _).notMem (by decide)

theorem builds (config : Config) :
    Builds (config.sections.flatMap Section.statements) (valuesOf config.rootKeys)
      config.entries := by
  -- each part goes behind what is there, under a name that is new: this is all that is checked
  have hhead := listed_headEntries config.listed_rootKeys
  have hlists := listed_withTables (listed_withTables hhead "rule"
    (config.rules.map RuleConfig.entries)) "link" (config.links.map LinkConfig.entries)
  have hdefaults : Builds config.defaults.toSection.statements (valuesOf config.rootKeys)
      config.headEntries :=
    Builds.table fresh_root ((listed_valuesOf config.listed_rootKeys).notMem (by decide))
      config.defaults.proper_keys
  have hrules : Builds (config.rules.flatMap fun rule => rule.toSections.flatMap Section.statements)
      config.headEntries
      (withTables "rule" config.headEntries (config.rules.map RuleConfig.entries)) :=
    Builds.elements [] fun rule hm elements =>
      rule.builds (rule_notMem_headEntries (List.ne_nil_of_mem hm)) elements
  have hlinks : Builds (config.links.flatMap fun link => link.toSections.flatMap Section.statements)
      (withTables "rule" config.headEntries (config.rules.map RuleConfig.entries))
      config.listEntries :=
    Builds.elements [] fun link hm elements =>
      link.builds (link_notMem_ruleEntries (List.ne_nil_of_mem hm)) elements
  have hsuppression : Builds config.suppression.toSection.statements config.listEntries
      config.entries :=
    Builds.table fresh_root (hlists.notMem (by decide)) config.suppression.proper_keys
  have hall := ((hdefaults.append hrules).append hlinks).append hsuppression
  simpa [sections, List.flatMap_assoc] using hall

/-- The members of the document that a text of the configuration spells. -/
def members (config : Config) : List (String × Json) :=
  jsonOf config.rootKeys ++ member "defaults" config.defaults.toJson
    ++ memberIfAny "rule" RuleConfig.toJson config.rules
    ++ memberIfAny "link" LinkConfig.toJson config.links
    ++ member "suppression" config.suppression.toJson

theorem read?_toToml (config : Config) :
    Toml.read? config.toToml = some (ofJson (.object config.members)) := by
  have hspells : Spells config.toToml.toList
      (assignments config.rootKeys ++ config.sections.flatMap Section.statements) := by
    rw [toToml_eq]
    exact spells_write config.proper_rootKeys config.proper_sections
  have hmembers : membersOf config.entries
      = config.members.map fun member => (member.1, ofJson member.2) := by
    have hdefaults := config.defaults.object_entries
    have hsuppression := config.suppression.object_entries
    rw [entries, membersOf_append, listEntries,
      membersOf_withTables (fun link (_ : link ∈ config.links) => link.object_entries),
      membersOf_withTables (fun rule (_ : rule ∈ config.rules) => rule.object_entries),
      headEntries, membersOf_append, membersOf_valuesOf]
    simp [members, membersOf, Item.toDocument, hdefaults, hsuppression, member, jsonOf]
  rw [read?_of_spells hspells, documentOf?_of_builds config.proper_rootKeys config.builds, hmembers,
    ofJson_object]

/-- Rules and links are members once: as an empty list at the root, or as tables. -/
theorem record?_members (config : Config) :
    record? ["includes", "defaults", "rule", "link", "suppression"]
      (ofJson (.object config.members)) = some (written config.members) := by
  have hnames : (config.members.map (·.1)).Nodup ∧
      config.members.map (·.1) ⊆ ["includes", "defaults", "rule", "link", "suppression"] := by
    rw [members, rootKeys]
    cases config.includes <;> cases config.rules <;> cases config.links <;>
      simp [keyIfAny, emptyList, jsonOf, member, memberIfAny]
  exact record?_written (.refl _) hnames.1 hnames.2

/-- **Configurations as TOML.** Whatever is in the texts of a configuration, reading what is written
for it gives the configuration back. -/
theorem ofToml?_toToml (config : Config) : ofToml? config.toToml = some config := by
  have hrules := readOr_emptyList fun rule (_ : rule ∈ config.rules) =>
    rule.ofDocument?_toJson emptyPayload
  have hlinks := readOr_emptyList fun link (_ : link ∈ config.links) => link.ofDocument?_toJson
  rw [ofToml?_eq, read?_toToml, Option.bind_some, ofDocument?, record?_members]
  simp [members, rootKeys, jsonOf_append, jsonOf_keyIfAny, List.lookup_append, lookup_emptyList,
    hrules, hlinks, config.defaults.ofDocument?_toJson, config.suppression.ofDocument?_toJson]

end Config
end AccessReport
