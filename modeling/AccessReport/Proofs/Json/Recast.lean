import AccessReport.Proofs.Json.Records
import Mathlib.Data.List.Forall2
import Mathlib.Data.List.Nodup
import Mathlib.Logic.Relation
/-!
# Lenient records

What a text says of a record can change in form and still be read as the same record: an object may
name its members in another order, have members that the record does not know, and leave out a
default. `RecordForm` holds what has to be known of the fields for that, and `Recast` relates two
documents if the one is made from the other by such changes, here and in the records further in.

A reader that goes by names and defaults reads what it read before. That is proved for one change
of an object (`RecastStep.follows`), field by field (`Follows`), and then for all of them.

* `RecastStep.follows`: what one change does to the fields of a record.
* `FieldForm.Follows.required`, `FieldForm.Follows.defaulted`: a field after a change.
* `Keeps.recast`: a reader that keeps to what every field says reads the same after all changes.
-/
namespace AccessReport

open Document

/-! ## Changes of form -/

/-- What a document may say of a field of a record. -/
structure FieldForm where
  name : String
  /-- How the default of the field is written. -/
  absent? : Option Document := none
  /-- What may stand in place of a content. -/
  inner : Document → Document → Prop := Eq

/-- What documents may say of a record, field by field. -/
structure RecordForm where
  fields : List FieldForm
  distinct : (fields.map (·.name)).Nodup

def RecordForm.names (form : RecordForm) : List String := form.fields.map (·.name)

namespace Document

/-- One change of the document of a record. An object may get its members in another order, get a
member that the record does not know, lose a default, or get another content under a name; what
happens to the member that stands first can happen to any, since each can be brought there. An array
of fields may get another content in the place of one. -/
inductive RecastStep (form : RecordForm) : Document → Document → Prop where
  | reordered {members others : List (String × Document)} (h : members.Perm others) :
    RecastStep form (.object members) (.object others)
  | extended {name : String} (h : name ∉ form.names) (content : Document)
    (members : List (String × Document)) :
    RecastStep form (.object members) (.object ((name, content) :: members))
  | shortened {field : FieldForm} {content : Document} (h : field ∈ form.fields)
    (hd : field.absent? = some content) (members : List (String × Document)) :
    RecastStep form (.object ((field.name, content) :: members)) (.object members)
  | within {field : FieldForm} {content other : Document} (h : field ∈ form.fields)
    (hi : field.inner content other) (members : List (String × Document)) :
    RecastStep form (.object ((field.name, content) :: members))
      (.object ((field.name, other) :: members))
  | withinItem {field : FieldForm} {before : List Document} {content other : Document}
    (h : form.fields[before.length]? = some field) (hi : field.inner content other)
    (after : List Document) :
    RecastStep form (.array (before ++ content :: after)) (.array (before ++ other :: after))

/-- Any number of changes. -/
def Recast (form : RecordForm) : Document → Document → Prop :=
  Relation.ReflTransGen (RecastStep form)

/-- Two lists with related items. -/
inductive Itemwise (related : Document → Document → Prop) : Document → Document → Prop where
  | items {items others : List Document} (h : List.Forall₂ related items others) :
    Itemwise related (.array items) (.array others)

end Document

/-! ## Readings that are kept -/

/-- What the one reading gives, the other one gives. -/
def Kept {α : Type} (reading other : Option α) : Prop :=
  ∀ value, reading = some value → other = some value

theorem Kept.refl {α : Type} (reading : Option α) : Kept reading reading := fun _ h => h

theorem Kept.bind {α β : Type} {reading other : Option α} {next more : α → Option β}
    (h : Kept reading other) (hn : ∀ value, Kept (next value) (more value)) :
    Kept (reading >>= next) (other >>= more) := by
  intro result hr
  obtain ⟨value, hv, hresult⟩ := Option.bind_eq_some_iff.mp hr
  exact Option.bind_eq_some_iff.mpr ⟨value, h value hv, hn value result hresult⟩

/-- A reader reads the same from related documents. -/
def Keeps {α : Type} (read? : Document → Option α) (related : Document → Document → Prop) : Prop :=
  ∀ ⦃document other⦄, related document other → Kept (read? document) (read? other)

namespace Keeps

variable {α : Type} {read? : Document → Option α} {related : Document → Document → Prop}

theorem eq : Keeps read? Eq := by
  rintro document _ rfl
  exact .refl _

theorem reflTransGen (h : Keeps read? related) : Keeps read? (Relation.ReflTransGen related) := by
  intro document other hr value hv
  induction hr with
  | refl => exact hv
  | tail _ hstep ih => exact h hstep value ih

theorem list? (h : Keeps read? related) : Keeps (list? read?) (Itemwise related) := by
  rintro _ _ ⟨hitems⟩
  simp only [Document.list?]
  induction hitems with
  | nil => exact .refl _
  | cons hitem _ ih =>
    rw [List.mapM_cons, List.mapM_cons]
    exact (h hitem).bind fun _ => ih.bind fun _ => .refl _

theorem option?_list? (h : Keeps read? related) :
    Keeps (option? (Document.list? read?)) (Itemwise related) := by
  rintro _ _ ⟨hitems⟩ held hh
  obtain ⟨values, hv, rfl⟩ := Option.map_eq_some_iff.mp hh
  exact Option.map_eq_some_iff.mpr ⟨values, h.list? (.items hitems) values hv, rfl⟩

end Keeps

/-! ## One field -/

namespace FieldForm

/-- What two documents say of a field: the same, or a default in the first one only, or contents of
which the one may stand in place of the other. -/
inductive Follows (field : FieldForm) : Option Document → Option Document → Prop where
  | same (content? : Option Document) : Follows field content? content?
  | leftOut {content : Document} (h : field.absent? = some content) :
    Follows field (some content) none
  | recast {content other : Document} (h : field.inner content other) :
    Follows field (some content) (some other)

namespace Follows

variable {α : Type} {read? : Document → Option α} {field : FieldForm} {fields others : Fields}

theorem required (h : field.Follows (fields.get? field.name) (others.get? field.name))
    (hk : Keeps read? field.inner) (hd : field.absent? = none) :
    Kept (fields.required field.name read?) (others.required field.name read?) := by
  unfold Fields.required
  generalize fields.get? field.name = content?, others.get? field.name = other? at h
  cases h with
  | same => exact .refl _
  | leftOut h => rw [hd] at h; cases h
  | recast h => exact hk h

theorem defaulted (h : field.Follows (fields.get? field.name) (others.get? field.name))
    (hk : Keeps read? field.inner) {content : Document} (hd : field.absent? = some content)
    {absent : α} (ha : read? content = some absent) :
    Kept (fields.defaulted field.name read? absent)
      (others.defaulted field.name read? absent) := by
  unfold Fields.defaulted
  generalize fields.get? field.name = content?, others.get? field.name = other? at h
  cases h with
  | same => exact .refl _
  | leftOut h =>
    obtain rfl := Option.some.inj (h.symm.trans hd)
    intro value hv
    exact ha.symm.trans hv
  | recast h => exact hk h

end Follows

/-- Where a content is replaced, every field says the same or what may stand in its place. -/
theorem follows_replaced {fields : List FieldForm} (hn : (fields.map (·.name)).Nodup)
    {field : FieldForm} (hf : field ∈ fields) {content other : Document}
    (hi : field.inner content other) (before after : List (String × Document)) :
    ∀ asked ∈ fields, asked.Follows
      ((before ++ (field.name, content) :: after).lookup asked.name)
      ((before ++ (field.name, other) :: after).lookup asked.name) := by
  intro asked ha
  rw [List.lookup_append, List.lookup_append, Grouping.lookup_cons_eq, Grouping.lookup_cons_eq]
  cases before.lookup asked.name with
  | some _ => exact .same _
  | none =>
    by_cases hname : asked.name = field.name
    · obtain rfl : asked = field := List.inj_on_of_nodup_map hn ha hf hname
      rw [if_pos rfl, if_pos rfl]
      exact .recast hi
    · rw [if_neg hname, if_neg hname]
      exact .same _

end FieldForm

/-! ## One change -/

namespace RecordForm

variable {form : RecordForm}

/-- The fields of the second document follow those of the first one. -/
def Follows (form : RecordForm) (fields others : Fields) : Prop :=
  ∀ field ∈ form.fields, field.Follows (fields.get? field.name) (others.get? field.name)

/-- The members that the record knows. -/
def known (form : RecordForm) (members : List (String × Document)) : List (String × Document) :=
  members.filter fun member => form.names.contains member.1

theorem known_cons {field : FieldForm} (h : field ∈ form.fields) (content : Document)
    (members : List (String × Document)) :
    form.known ((field.name, content) :: members) = (field.name, content) :: form.known members :=
  List.filter_cons_of_pos (List.contains_iff_mem.mpr (List.mem_map_of_mem h))

theorem record?_object {members : List (String × Document)} {fields : Fields} :
    record? form.names (.object members) = some fields ↔
      ((form.known members).map (·.1)).Nodup ∧ fields = ⟨form.known members⟩ := by
  rw [← repeatsName_eq_false_iff]
  change (if repeatsName (form.known members) = true then none else some ⟨form.known members⟩)
    = some fields ↔ _
  cases repeatsName (form.known members) <;> simp [eq_comm]

/-- Another order of the members. -/
theorem follows_reordered {members others : List (String × Document)} (h : members.Perm others)
    {fields : Fields} (hf : record? form.names (.object members) = some fields) :
    ∃ after, record? form.names (.object others) = some after ∧ form.Follows fields after := by
  obtain ⟨hn, rfl⟩ := record?_object.mp hf
  have hknown : (form.known members).Perm (form.known others) := h.filter _
  refine ⟨_, record?_object.mpr ⟨(hknown.map (·.1)).nodup_iff.mp hn, rfl⟩, fun field _ => ?_⟩
  rw [Fields.get?, Fields.get?, Grouping.lookup_perm hknown hn]
  exact .same _

/-- A default that is left out. -/
theorem follows_shortened {field : FieldForm} (h : field ∈ form.fields) {content : Document}
    (hd : field.absent? = some content) {members : List (String × Document)} {fields : Fields}
    (hf : record? form.names (.object ((field.name, content) :: members)) = some fields) :
    ∃ after, record? form.names (.object members) = some after ∧ form.Follows fields after := by
  obtain ⟨hn, rfl⟩ := record?_object.mp hf
  rw [known_cons h, List.map_cons, List.nodup_cons] at hn
  refine ⟨_, record?_object.mpr ⟨hn.2, rfl⟩, fun asked ha => ?_⟩
  rw [Fields.get?, Fields.get?, known_cons h, Grouping.lookup_cons_eq]
  by_cases hname : asked.name = field.name
  · obtain rfl : asked = field := List.inj_on_of_nodup_map form.distinct ha h hname
    rw [if_pos rfl, Grouping.lookup_of_notMem hn.1]
    exact .leftOut hd
  · rw [if_neg hname]
    exact .same _

/-- Another content of a member. -/
theorem follows_within {field : FieldForm} (h : field ∈ form.fields) {content other : Document}
    (hi : field.inner content other) {members : List (String × Document)} {fields : Fields}
    (hf : record? form.names (.object ((field.name, content) :: members)) = some fields) :
    ∃ after, record? form.names (.object ((field.name, other) :: members)) = some after ∧
      form.Follows fields after := by
  obtain ⟨hn, rfl⟩ := record?_object.mp hf
  rw [known_cons h, List.map_cons] at hn
  refine ⟨⟨form.known ((field.name, other) :: members)⟩, record?_object.mpr ⟨?_, rfl⟩, ?_⟩
  · rw [known_cons h, List.map_cons]
    exact hn
  · unfold Follows Fields.get?
    rw [known_cons h, known_cons h]
    exact FieldForm.follows_replaced form.distinct h hi [] (form.known members)

theorem exists_names_around {field : FieldForm} {place : Nat}
    (h : form.fields[place]? = some field) :
    ∃ first rest, form.names = first ++ field.name :: rest ∧ first.length = place := by
  obtain ⟨hlt, hget⟩ := List.getElem?_eq_some_iff.mp h
  refine ⟨(form.fields.take place).map (·.name),
    (form.fields.drop (place + 1)).map (·.name), ?_, ?_⟩
  · rw [names, ← hget, ← List.map_cons, ← List.drop_eq_getElem_cons hlt, ← List.map_append,
      List.take_append_drop]
  · rw [List.length_map, List.length_take]
    omega

/-- Another content of an item. -/
theorem follows_withinItem {field : FieldForm} {before : List Document}
    (h : form.fields[before.length]? = some field) {content other : Document}
    (hi : field.inner content other) {after : List Document} {fields : Fields}
    (hf : record? form.names (.array (before ++ content :: after)) = some fields) :
    ∃ later, record? form.names (.array (before ++ other :: after)) = some later ∧
      form.Follows fields later := by
  obtain ⟨first, rest, hnames, hlength⟩ := exists_names_around h
  have hzip : ∀ item, form.names.zip (before ++ item :: after)
      = first.zip before ++ (field.name, item) :: rest.zip after := by
    intro item
    rw [hnames, List.zip_append hlength, List.zip_cons_cons]
  have hfield : field ∈ form.fields := List.mem_of_getElem? h
  rw [record?] at hf ⊢
  split at hf
  · rename_i hshort
    obtain rfl := Option.some.inj hf
    have hsame : (before ++ other :: after).length ≤ form.names.length := by
      simpa using hshort
    rw [if_pos hsame]
    refine ⟨_, rfl, ?_⟩
    unfold Follows Fields.get?
    rw [hzip, hzip]
    exact FieldForm.follows_replaced form.distinct hfield hi _ _
  · cases hf

end RecordForm

/-- After one change of its form, a document gives a record fields that follow those before. -/
theorem Document.RecastStep.follows {form : RecordForm} {document other : Document}
    (h : RecastStep form document other) {fields : Fields}
    (hf : record? form.names document = some fields) :
    ∃ after, record? form.names other = some after ∧ form.Follows fields after := by
  cases h with
  | reordered h => exact RecordForm.follows_reordered h hf
  | @extended name h content members =>
    have hunknown : form.names.contains name = false := by simpa using h
    have hsame := record?_unknown form.names [] members name content hunknown
    exact ⟨fields, hsame.trans hf, fun _ _ => .same _⟩
  | shortened h hd => exact RecordForm.follows_shortened h hd hf
  | within h hi => exact RecordForm.follows_within h hi hf
  | withinItem h hi => exact RecordForm.follows_withinItem h hi hf

/-- A reader that goes through the fields of a record reads the same after any changes, if it does
so from fields that follow one another. -/
theorem Keeps.recast {α : Type} {form : RecordForm} {build : Fields → Option α}
    (h : ∀ fields others, form.Follows fields others → Kept (build fields) (build others)) :
    Keeps (fun document => record? form.names document >>= build) (Recast form) := by
  refine .reflTransGen fun document other hstep value hv => ?_
  obtain ⟨fields, hf, hbuild⟩ := Option.bind_eq_some_iff.mp hv
  obtain ⟨others, ho, hfollows⟩ := hstep.follows hf
  exact Option.bind_eq_some_iff.mpr ⟨others, ho, h fields others hfollows value hbuild⟩

end AccessReport
