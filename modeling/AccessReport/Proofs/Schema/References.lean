import AccessReport.Proofs.Json.Data
import AccessReport.Schema.Printer
/-!
# References between schemas

A named schema is written once, in the document of which it is the root or among the definitions of
that document, and everywhere else a reference with its name stands for it. So a document is closed:
what it refers to is in it.

Results:
* `exists_named_of_usage`, `exists_named_of_definition`: a schema, used or defined, refers to
  schemas that are in it.
* `definitions_ascending`, `mem_keys_definitions`: what is defined in a document.
* `references_resolved`: every reference in a document leads to something in that document.
-/
namespace AccessReport

/-- Somewhere in the value there is a reference to the target. The value that stands for a missing
field is data, and not searched. -/
inductive Json.RefersTo (target : String) : Json → Prop where
  | here {members : List (String × Json)} (h : ("$ref", .string target) ∈ members) :
    RefersTo target (.object members)
  | item {items : List Json} {item : Json} (hm : item ∈ items) (h : RefersTo target item) :
    RefersTo target (.array items)
  | member {members : List (String × Json)} {name : String} {value : Json}
    (hm : (name, value) ∈ members) (hname : name ≠ "default") (h : RefersTo target value) :
    RefersTo target (.object members)

namespace Json

variable {target : String}

@[simp] theorem refersTo_string (held : String) : ¬RefersTo target (.string held) := by
  intro h
  cases h

@[simp] theorem refersTo_array (items : List Json) :
    RefersTo target (.array items) ↔ ∃ item ∈ items, RefersTo target item := by
  constructor
  · intro h
    cases h with
    | item hm h => exact ⟨_, hm, h⟩
  · intro ⟨item, hm, h⟩
    exact .item hm h

theorem refersTo_object (members : List (String × Json)) :
    RefersTo target (.object members) ↔ ∃ member ∈ members,
      member = ("$ref", .string target) ∨ member.1 ≠ "default" ∧ RefersTo target member.2 := by
  constructor
  · intro h
    cases h with
    | here h => exact ⟨_, h, .inl rfl⟩
    | member hm hname h => exact ⟨_, hm, .inr ⟨hname, h⟩⟩
  · intro ⟨member, hm, h⟩
    rcases h with rfl | ⟨hname, h⟩
    · exact .here hm
    · exact .member hm hname h

@[simp] theorem refersTo_nil : ¬RefersTo target (.object []) := by
  simp [refersTo_object]

@[simp] theorem refersTo_cons (name : String) (value : Json) (rest : List (String × Json)) :
    RefersTo target (.object ((name, value) :: rest))
      ↔ (name = "$ref" ∧ value = .string target) ∨ (name ≠ "default" ∧ RefersTo target value)
        ∨ RefersTo target (.object rest) := by
  simp [refersTo_object, or_assoc]

@[simp] theorem refersTo_append (members rest : List (String × Json)) :
    RefersTo target (.object (members ++ rest))
      ↔ RefersTo target (.object members) ∨ RefersTo target (.object rest) := by
  simp [refersTo_object, or_and_right, exists_or]

/-- Where all members are objects, one of them has the reference. -/
theorem exists_member_of_refersTo {members : List (String × Json)}
    (hobjects : ∀ member ∈ members, ∃ held, member.2 = .object held)
    (h : RefersTo target (.object members)) : ∃ member ∈ members, RefersTo target member.2 := by
  obtain ⟨member, hmember, hrefers⟩ := (refersTo_object members).mp h
  obtain ⟨held, hheld⟩ := hobjects member hmember
  rcases hrefers with rfl | ⟨-, hrefers⟩
  · cases hheld
  · exact ⟨member, hmember, hrefers⟩

@[simp] theorem refersTo_strings (texts : List String) : ¬RefersTo target (strings texts) := by
  simp [strings]

end Json

namespace Schema

open Json

variable {target : String}

/-! ## What a schema refers to -/

@[simp] theorem refersTo_describe (description : Option String) :
    ¬RefersTo target (.object (describe description)) := by
  cases description <;> simp [describe, memberIfSome]

@[simp] theorem refersTo_annotations (field : Field) :
    ¬RefersTo target (.object field.annotations) := by
  cases h : field.absence <;> simp [Field.annotations, h]

/-- A schema with null beside it refers to what it refers to alone. -/
theorem refersTo_of_orNull {members : Members} (h : RefersTo target (.object (orNull members))) :
    RefersTo target (.object members) := by
  unfold orNull at h
  split at h
  · simpa using h
  · simpa [typeMember] using h

/-- So does the schema of a field, with what the field says besides. -/
theorem refersTo_of_fieldJson {field : Field} {schema : Schema}
    (h : RefersTo target (fieldJson field schema)) : RefersTo target (.object schema.usage) := by
  unfold fieldJson at h
  split at h
  · exact h
  · simp_all
  · simpa using h

@[simp] theorem refersTo_variantsMembers (variants : List Variant) :
    ¬RefersTo target (.object (variantsMembers variants)) := by
  unfold variantsMembers
  split <;> simp [typeMember, variantJson]

@[simp] theorem refersTo_requiredMember (fields : List (Field × Schema)) :
    ¬RefersTo target (.object (requiredMember fields)) := by
  unfold requiredMember
  split <;> simp

/-- The properties of a record refer to what one of its fields refers to. -/
theorem exists_field_of_propertiesMember {fields : List (Field × Schema)}
    (h : RefersTo target (.object (propertiesMember fields))) :
    ∃ field ∈ fields, RefersTo target (.object field.2.usage) := by
  have hobject (field : Field × Schema) : ∃ held, fieldJson field.1 field.2 = .object held := by
    unfold fieldJson
    split <;> exact ⟨_, rfl⟩
  unfold propertiesMember at h
  split at h
  · simp at h
  · obtain ⟨member, hmember, hrefers⟩ := exists_member_of_refersTo
      (List.forall_mem_map.mpr fun field _ => hobject field) (by simpa using h)
    obtain ⟨field, hfield, rfl⟩ := List.mem_map.mp hmember
    exact ⟨field, hfield, refersTo_of_fieldJson hrefers⟩

/-- A schema that stands somewhere refers to schemas in it. -/
theorem exists_named_of_usage : ∀ (schema : Schema), RefersTo target (.object schema.usage) →
    ∃ entry ∈ schema.named, target = "#/definitions/" ++ entry.1
  | any, h | text, h | flag, h => by simp [usage, typeMember] at h
  | listOf inner, h => exists_named_of_usage inner (by simpa [usage, typeMember] using h)
  | mapOf inner, h => exists_named_of_usage inner (by simpa [usage, typeMember] using h)
  | optional inner, h => exists_named_of_usage inner (refersTo_of_orNull h)
  | choice name description variants, h =>
    ⟨_, List.mem_singleton_self _, by simpa [usage, reference, eq_comm] using h⟩
  | record name description fields, h =>
    ⟨_, List.mem_cons_self, by simpa [usage, reference, eq_comm] using h⟩

theorem mem_namedFields {fields : List (Field × Schema)} {entry : String × Schema} :
    entry ∈ namedFields fields ↔ ∃ field ∈ fields, entry ∈ field.2.named := by
  induction fields with
  | nil => simp [namedFields]
  | cons field fields ih => simp [namedFields, ih]

/-- Where a schema is defined, it refers to schemas in it. -/
theorem exists_named_of_definition (schema : Schema)
    (h : RefersTo target (.object schema.definition)) :
    ∃ entry ∈ schema.named, target = "#/definitions/" ++ entry.1 := by
  cases schema with
  | choice name description variants => simp [definition] at h
  | record name description fields =>
    have hproperties : RefersTo target (.object (propertiesMember (sortFields fields))) := by
      simpa [definition, typeMember] using h
    obtain ⟨field, hfield, hrefers⟩ := exists_field_of_propertiesMember hproperties
    obtain ⟨entry, hentry, htarget⟩ := exists_named_of_usage field.2 hrefers
    have hmem : field ∈ fields := List.mem_mergeSort.mp hfield
    exact ⟨entry, List.mem_cons_of_mem _ (mem_namedFields.mpr ⟨field, hmem, hentry⟩), htarget⟩
  | _ => exact exists_named_of_usage _ h

mutual

/-- What is in a schema that is in another is in that one. -/
theorem named_trans : ∀ (schema : Schema) {entry inner : String × Schema}, entry ∈ schema.named →
    inner ∈ entry.2.named → inner ∈ schema.named
  | any, _, _, h, _ | text, _, _, h, _ | flag, _, _, h, _ => by simp [named] at h
  | listOf items, _, _, h, hinner => named_trans items h hinner
  | mapOf values, _, _, h, hinner => named_trans values h hinner
  | optional held, _, _, h, hinner => named_trans held h hinner
  | choice name description variants, entry, _, h, hinner => by
    rw [List.mem_singleton.mp h] at hinner
    exact hinner
  | record name description fields, entry, _, h, hinner => by
    rw [named, List.mem_cons] at h
    rcases h with rfl | h
    · exact hinner
    · exact List.mem_cons_of_mem _ (namedFields_trans fields h hinner)

theorem namedFields_trans : ∀ (fields : List (Field × Schema)) {entry inner : String × Schema},
    entry ∈ namedFields fields → inner ∈ entry.2.named → inner ∈ namedFields fields
  | [], _, _, h, _ => by simp [namedFields] at h
  | (_, schema) :: rest, _, _, h, hinner => by
    rw [namedFields, List.mem_append] at h ⊢
    rcases h with h | h
    · exact .inl (named_trans schema h hinner)
    · exact .inr (namedFields_trans rest h hinner)

end

/-! ## What is defined in a document -/

theorem definitions_ascending (schema : Schema) :
    schema.definitions.Pairwise fun entry later => entry.1 < later.1 :=
  pairwise_sortMembers _

/-- Every schema in a schema is defined in its document, the schema itself being the document. -/
theorem mem_keys_definitions (schema : Schema) (name : String) :
    name ∈ schema.definitions.map (·.1)
      ↔ name ∈ schema.named.map (·.1) ∧ schema.name? ≠ some name := by
  rw [← Grouping.isSome_lookup_iff, definitions, lookup_sortMembers, Grouping.isSome_lookup_iff]
  simp only [List.map_reverse, List.mem_reverse, List.map_map, List.mem_map, List.mem_filter,
    Function.comp_apply, bne_iff_ne, ne_eq]
  constructor
  · intro ⟨entry, ⟨hentry, hne⟩, heq⟩
    exact ⟨⟨entry, hentry, heq⟩, fun hname => hne (by rw [hname, heq])⟩
  · intro ⟨⟨entry, hentry, heq⟩, hne⟩
    exact ⟨entry, ⟨hentry, fun hname => hne (by rw [← hname, heq])⟩, heq⟩

/-- What is defined is a schema in the schema. -/
theorem exists_named_of_mem_definitions {schema : Schema} {entry : String × Json}
    (h : entry ∈ schema.definitions) :
    ∃ inner ∈ schema.named, entry = (inner.1, .object inner.2.definition) := by
  obtain ⟨inner, hinner, rfl⟩ := List.mem_map.mp (mem_sortMembers h)
  exact ⟨inner, (List.mem_filter.mp hinner).1, rfl⟩

/-- A document refers to what the schema refers to, at its root or in one of the definitions. -/
theorem exists_named_of_toJson {schema : Schema} (h : RefersTo target schema.toJson) :
    ∃ entry ∈ schema.named, target = "#/definitions/" ++ entry.1 := by
  have hparts : RefersTo target (.object schema.definition)
      ∨ RefersTo target (.object schema.definitionsMember) := by
    unfold toJson at h
    cases hname : schema.name? <;> simpa [hname, memberIfSome] using h
  rcases hparts with hroot | hdefined
  · exact exists_named_of_definition schema hroot
  · unfold definitionsMember at hdefined
    split at hdefined
    · simp at hdefined
    · have hobjects : ∀ member ∈ schema.definitions, ∃ held, member.2 = .object held := by
        intro member hmember
        obtain ⟨inner, -, rfl⟩ := exists_named_of_mem_definitions hmember
        exact ⟨_, rfl⟩
      obtain ⟨member, hmember, hrefers⟩ :=
        exists_member_of_refersTo hobjects (by simpa using hdefined)
      obtain ⟨inner, hinner, rfl⟩ := exists_named_of_mem_definitions hmember
      obtain ⟨entry, hentry, htarget⟩ := exists_named_of_definition inner.2 hrefers
      exact ⟨entry, named_trans schema hinner hentry, htarget⟩

/-- **References.** Every reference in the document of a schema leads to the document itself or to
one of the definitions in it. -/
theorem references_resolved (schema : Schema) (h : RefersTo target schema.toJson) :
    ∃ name, target = "#/definitions/" ++ name
      ∧ (schema.name? = some name ∨ name ∈ schema.definitions.map (·.1)) := by
  obtain ⟨entry, hentry, htarget⟩ := exists_named_of_toJson h
  refine ⟨entry.1, htarget, ?_⟩
  rw [mem_keys_definitions]
  by_cases hname : schema.name? = some entry.1
  · exact .inl hname
  · exact .inr ⟨List.mem_map.mpr ⟨entry, hentry, rfl⟩, hname⟩

end Schema
end AccessReport
