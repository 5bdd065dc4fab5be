import AccessReport.Json.Record
import AccessReport.Proofs.Grouping
import AccessReport.Proofs.Json.Scanned
/-!
# Written records

A record is written as an object with one member for each field that has something to say. Where
the names of the members are among those of the fields, in their order, nothing is repeated and
nothing unknown is there: each field is read from the member with its name, and a field without a
member gets the value that made it be left out.

* `record?_written`: the fields of a written object.
* `required_written`, `defaulted_written`, `optional_written`: one field.
* `list?_written`, `readOr_map`, `readOr_any`: lists and parts that may be left out.
* `value?_ofJson`, `value?_ofJson_isSome`: data of any form is read, and as it was if its members
  are sorted.
* `exact_array`, `exact_strings`: how deep lists are.
-/
namespace AccessReport

open Json Document

/-! ## Sorted members -/

namespace Json

/-- The members of every object are sorted by name, one member for a name. -/
inductive Sorted : Json → Prop where
  | null : Sorted .null
  | bool (value : Bool) : Sorted (.bool value)
  | number (value : Number) : Sorted (.number value)
  | string (value : String) : Sorted (.string value)
  | array {items : List Json} (h : ∀ item ∈ items, Sorted item) : Sorted (.array items)
  | object {members : List (String × Json)}
    (hs : members.Pairwise fun member later => member.1 < later.1)
    (h : ∀ member ∈ members, Sorted member.2) : Sorted (.object members)

end Json

section
variable {α : Type} (put : String → α → List (String × α) → List (String × α))
  (hnil : ∀ key value, put key value [] = [(key, value)])
  (hcons : ∀ key value other held rest, put key value ((other, held) :: rest)
    = if key = other then (key, value) :: rest
      else if key < other then (key, value) :: (other, held) :: rest
      else (other, held) :: put key value rest)
include hnil hcons

/-- An entry behind all others is put at the end. -/
theorem put_last {key : String} {entries : List (String × α)}
    (h : ∀ entry ∈ entries, entry.1 < key) (value : α) :
    put key value entries = entries ++ [(key, value)] := by
  induction entries with
  | nil => exact hnil key value
  | cons entry entries ih =>
    obtain ⟨other, held⟩ := entry
    have hlt : other < key := h (other, held) List.mem_cons_self
    have hne : key ≠ other := by
      rintro rfl
      exact String.lt_irrefl key hlt
    rw [hcons, if_neg hne, if_neg (String.lt_asymm hlt),
      ih fun entry hm => h entry (List.mem_cons_of_mem _ hm), List.cons_append]

/-- Entries that come in order of their keys are put behind one another. -/
theorem foldl_put_of_sorted {entries : List (String × α)}
    (h : entries.Pairwise fun entry later => entry.1 < later.1) :
    entries.foldl (fun held entry => put entry.1 entry.2 held) [] = entries := by
  have hall : ∀ held, (held ++ entries).Pairwise (fun entry later => entry.1 < later.1) →
      entries.foldl (fun held entry => put entry.1 entry.2 held) held = held ++ entries := by
    -- what was put before stays in front, so that the next entry is behind all others
    induction entries with
    | nil => simp
    | cons entry entries ih =>
      intro held hsorted
      have hbefore : ∀ other ∈ held, other.1 < entry.1 := fun other ho =>
        (List.pairwise_append.mp hsorted).2.2 other ho entry List.mem_cons_self
      rw [List.foldl_cons, put_last put hnil hcons hbefore]
      have hnext := ih (List.pairwise_cons.mp h).2 (held ++ [entry]) (by simpa using hsorted)
      simpa using hnext
  exact hall [] h

end

theorem Json.sortMembers_of_sorted {members : List (String × Json)}
    (h : members.Pairwise fun member later => member.1 < later.1) :
    Json.sortMembers members = members :=
  foldl_put_of_sorted Json.put (fun _ _ => rfl) (fun _ _ _ _ _ => rfl) h

/-! ## Values as documents -/

namespace Document

theorem ofJson_array (items : List Json) : ofJson (.array items) = .array (items.map ofJson) := by
  have hall : ∀ items, ofJsonItems items = items.map ofJson := by
    intro items
    induction items with
    | nil => rfl
    | cons item items ih => rw [ofJsonItems, ih, List.map_cons]
  rw [ofJson, hall]

theorem ofJson_object (members : List (String × Json)) :
    ofJson (.object members) = .object (members.map fun member => (member.1, ofJson member.2)) := by
  have hall : ∀ members, ofJsonMembers members
      = members.map fun member => (member.1, ofJson member.2) := by
    intro members
    induction members with
    | nil => rfl
    | cons member members ih => rw [ofJsonMembers, ih, List.map_cons]
  rw [ofJson, hall]

theorem values?_ofJson {items : List Json} (h : ∀ item ∈ items, (ofJson item).value? = some item) :
    values? (items.map ofJson) = some items := by
  induction items with
  | nil => rfl
  | cons item items ih =>
    rw [List.map_cons, values?, h item List.mem_cons_self,
      ih fun other hm => h other (List.mem_cons_of_mem item hm)]
    rfl

theorem memberValues?_ofJson {members : List (String × Json)}
    (h : ∀ member ∈ members, (ofJson member.2).value? = some member.2) :
    memberValues? (members.map fun member => (member.1, ofJson member.2)) = some members := by
  induction members with
  | nil => rfl
  | cons member members ih =>
    obtain ⟨name, value⟩ := member
    have hvalue : (ofJson value).value? = some value := h (name, value) List.mem_cons_self
    rw [List.map_cons, memberValues?, hvalue,
      ih fun other hm => h other (List.mem_cons_of_mem _ hm)]
    rfl

/-- Sorted data is read back as it is. -/
theorem value?_ofJson {value : Json} (h : value.Sorted) : (ofJson value).value? = some value := by
  induction h with
  | null => rfl
  | bool _ => rfl
  | number _ => rfl
  | string _ => rfl
  | array _ ih => rw [ofJson_array, value?, values?_ofJson ih, Option.map_some]
  | object hs _ ih =>
    rw [ofJson_object, value?, memberValues?_ofJson ih, Option.map_some, sortMembers_of_sorted hs]

mutual

/-- Every value is read back as some value, sorted or not. -/
theorem value?_ofJson_isSome : (value : Json) → (ofJson value).value?.isSome = true
  | .null | .bool _ | .number _ | .string _ => rfl
  | .array items => by
    rw [ofJson, value?, Option.isSome_map]
    exact values?_ofJsonItems_isSome items
  | .object members => by
    rw [ofJson, value?, Option.isSome_map]
    exact memberValues?_ofJsonMembers_isSome members

theorem values?_ofJsonItems_isSome :
    (items : List Json) → (values? (ofJsonItems items)).isSome = true
  | [] => rfl
  | item :: rest => by
    obtain ⟨value, hvalue⟩ := Option.isSome_iff_exists.mp (value?_ofJson_isSome item)
    obtain ⟨values, hvalues⟩ := Option.isSome_iff_exists.mp (values?_ofJsonItems_isSome rest)
    rw [ofJsonItems, values?, hvalue, hvalues]
    rfl

theorem memberValues?_ofJsonMembers_isSome :
    (members : List (String × Json)) → (memberValues? (ofJsonMembers members)).isSome = true
  | [] => rfl
  | (name, value) :: rest => by
    obtain ⟨held, hheld⟩ := Option.isSome_iff_exists.mp (value?_ofJson_isSome value)
    obtain ⟨values, hvalues⟩ :=
      Option.isSome_iff_exists.mp (memberValues?_ofJsonMembers_isSome rest)
    rw [ofJsonMembers, memberValues?, hheld, hvalues]
    rfl

end

/-! ## Names -/

theorem repeatsName_eq_false_iff {members : List (String × Document)} :
    repeatsName members = false ↔ (members.map (·.1)).Nodup := by
  induction members with
  | nil => simp [repeatsName]
  | cons member members ih =>
    obtain ⟨name, document⟩ := member
    have hnew : members.any (fun member => member.1 == name) = false ↔
        name ∉ members.map (·.1) := by
      simp only [List.any_eq_false, beq_iff_eq, List.mem_map, not_exists, not_and]
    rw [repeatsName, Bool.or_eq_false_iff, ih, hnew, List.map_cons, List.nodup_cons]

end Document

/-- The names of members are some of these names, in their order. -/
def Listed {α : Type} (names : List String) (members : List (String × α)) : Prop :=
  (members.map (·.1)).Sublist names

namespace Listed

variable {α β : Type} {names more : List String}

theorem append {members others : List (String × α)} (h : Listed names members)
    (h' : Listed more others) : Listed (names ++ more) (members ++ others) := by
  unfold Listed
  rw [List.map_append]
  exact List.Sublist.append h h'

theorem map {members : List (String × α)} (h : Listed names members) (change : α → β) :
    Listed names (members.map fun member => (member.1, change member.2)) := by
  unfold Listed
  rw [List.map_map]
  exact h

theorem notMem {members : List (String × α)} (h : Listed names members) {name : String}
    (hn : name ∉ names) : name ∉ members.map (·.1) := fun hm => hn (h.subset hm)

theorem member (name : String) (value : Json) : Listed [name] (Json.member name value) :=
  List.Sublist.refl _

theorem ifSome (name : String) (write : α → Json) (held : Option α) :
    Listed [name] (memberIfSome name write held) := by
  cases held with
  | none => exact List.nil_sublist _
  | some _ => exact List.Sublist.refl _

theorem ifAny (name : String) (write : α → Json) (items : List α) :
    Listed [name] (memberIfAny name write items) := by
  cases items with
  | nil => exact List.nil_sublist _
  | cons _ _ => exact List.Sublist.refl _

/-- Such members are the fields of a record that knows the names, whatever their order is there. -/
theorem record? {known : List String} {members : List (String × Document)}
    (h : Listed names members) (hn : names.Nodup) (hk : names ⊆ known) :
    record? known (.object members) = some ⟨members⟩ := by
  have hall : members.filter (fun member => known.contains member.1) = members := by
    rw [List.filter_eq_self]
    intro member hm
    rw [List.contains_iff_mem]
    exact hk (h.subset (List.mem_map_of_mem hm))
  have honce : repeatsName members = false := repeatsName_eq_false_iff.mpr (hn.sublist h)
  simp only [Document.record?, objectFields?, hall, honce]
  rfl

end Listed

/-! ## Fields -/

namespace Fields

variable {α : Type}

/-- The fields that a written object gives. -/
def written (members : List (String × Json)) : Fields :=
  ⟨members.map fun member => (member.1, ofJson member.2)⟩

theorem record?_written {names known : List String} {members : List (String × Json)}
    (h : Listed names members) (hn : names.Nodup) (hk : names ⊆ known) :
    record? known (ofJson (.object members)) = some (written members) := by
  rw [ofJson_object]
  exact (h.map ofJson).record? hn hk

/-- A field that is read from what was written for it, if anything was. -/
def readOr (absent : α) (read? : Document → Option α) : Option Json → Option α
  | none => some absent
  | some value => read? (ofJson value)

/-- Whatever was written is usable. -/
theorem exists_writtenValues (members : List (String × Json)) :
    ∃ values, ((written members).given.mapM fun member => member.2.value?) = some values := by
  induction members with
  | nil => exact ⟨[], rfl⟩
  | cons member members ih =>
    obtain ⟨value, hvalue⟩ := Option.isSome_iff_exists.mp (value?_ofJson_isSome member.2)
    obtain ⟨values, hvalues⟩ := ih
    refine ⟨value :: values, ?_⟩
    rw [written] at hvalues ⊢
    rw [List.map_cons, List.mapM_cons, hvalue, hvalues]
    rfl

theorem get?_written (members : List (String × Json)) (name : String) :
    (written members).get? name = (members.lookup name).map ofJson := by
  unfold written get?
  induction members with
  | nil => rfl
  | cons member members ih =>
    obtain ⟨first, value⟩ := member
    rw [List.map_cons, Grouping.lookup_cons_eq, Grouping.lookup_cons_eq, ih]
    by_cases h : name = first
    · rw [if_pos h, if_pos h, Option.map_some]
    · rw [if_neg h, if_neg h]

@[simp] theorem required_written (members : List (String × Json)) (name : String)
    (read? : Document → Option α) :
    (written members).required name read?
      = (members.lookup name).bind fun value => read? (ofJson value) := by
  rw [required, get?_written]
  cases members.lookup name <;> rfl

@[simp] theorem defaulted_written (members : List (String × Json)) (name : String)
    (read? : Document → Option α) (absent : α) :
    (written members).defaulted name read? absent
      = readOr absent read? (members.lookup name) := by
  rw [defaulted, get?_written]
  cases members.lookup name <;> rfl

@[simp] theorem optional_written (members : List (String × Json)) (name : String)
    (read? : Document → Option α) :
    (written members).optional name read?
      = readOr none (option? read?) (members.lookup name) :=
  defaulted_written members name (option? read?) none

@[simp] theorem readOr_none (absent : α) (read? : Document → Option α) :
    readOr absent read? none = some absent := rfl

@[simp] theorem readOr_some (absent : α) (read? : Document → Option α) (value : Json) :
    readOr absent read? (some value) = read? (ofJson value) := rfl

end Fields

/-! ## Members under a name -/

namespace Json

variable {α : Type}

@[simp] theorem lookup_member (name : String) (value : Json) (key : String) :
    (member name value).lookup key = if key = name then some value else none := by
  rw [member, Grouping.lookup_cons_eq, List.lookup_nil]

@[simp] theorem lookup_memberIfSome (name : String) (write : α → Json) (held : Option α)
    (key : String) :
    (memberIfSome name write held).lookup key = if key = name then held.map write else none := by
  cases held with
  | none => simp [memberIfSome]
  | some held => exact lookup_member name (write held) key

@[simp] theorem lookup_memberIfAny (name : String) (write : α → Json) (items : List α)
    (key : String) :
    (memberIfAny name write items).lookup key
      = if key = name then (if items = [] then none else some (.array (items.map write)))
        else none := by
  cases items with
  | nil => simp [memberIfAny]
  | cons item items => exact lookup_member name (.array ((item :: items).map write)) key

theorem exact_array {levels : Nat} {write : α → Json} {items : List α}
    (h : ∀ item ∈ items, Exact levels (write item)) :
    Exact (levels + 1) (.array (items.map write)) :=
  .array fun _ hm => by
    obtain ⟨item, hi, rfl⟩ := List.mem_map.mp hm
    exact h item hi

theorem exact_strings (levels : Nat) (texts : List String) : Exact (levels + 1) (strings texts) :=
  exact_array fun text _ => .string levels text

/-- An object is as deep as the members of its parts are. -/
@[simp] theorem forall_mem_member (name : String) (value : Json) (p : String × Json → Prop) :
    (∀ held ∈ member name value, p held) ↔ p (name, value) := by
  simp [member]

@[simp] theorem forall_mem_memberIfSome (name : String) (write : α → Json) (held : Option α)
    (p : String × Json → Prop) :
    (∀ member ∈ memberIfSome name write held, p member)
      ↔ ∀ value, held = some value → p (name, write value) := by
  cases held <;> simp [memberIfSome]

@[simp] theorem forall_mem_memberIfAny (name : String) (write : α → Json) (items : List α)
    (p : String × Json → Prop) :
    (∀ member ∈ memberIfAny name write items, p member)
      ↔ items ≠ [] → p (name, .array (items.map write)) := by
  cases items <;> simp [memberIfAny]

end Json

/-! ## Lists and parts that may be left out -/

@[simp] theorem Document.text?_string (text : String) :
    text? (ofJson (.string text)) = some text := rfl

@[simp] theorem Document.flag?_bool (flag : Bool) : flag? (ofJson (.bool flag)) = some flag := rfl

section
variable {α : Type} {read? : Document → Option α} {write : α → Json}

/-- A list whose items are each read back. -/
theorem Document.list?_written {items : List α}
    (h : ∀ item ∈ items, read? (ofJson (write item)) = some item) :
    list? read? (ofJson (.array (items.map write))) = some items := by
  have hread : ((items.map write).map ofJson).mapM read? = some items := by
    induction items with
    | nil => rfl
    | cons item items ih =>
      rw [List.map_cons, List.map_cons, List.mapM_cons, h item List.mem_cons_self,
        ih fun other hm => h other (List.mem_cons_of_mem item hm)]
      rfl
  rw [ofJson_array]
  exact hread

theorem Document.list?_strings (texts : List String) :
    list? text? (ofJson (strings texts)) = some texts :=
  list?_written fun _ _ => rfl

/-- What is written is told apart from what is left empty. -/
theorem Document.option?_of_ne {document : Document} {value : α} (hne : document ≠ .null)
    (h : read? document = some value) : option? read? document = some (some value) := by
  cases document with
  | null => exact absurd rfl hne
  | _ => simp only [option?, h, Option.map_some]

theorem Fields.readOr_map {held : Option α} (hne : ∀ value, ofJson (write value) ≠ .null)
    (h : ∀ value, held = some value → read? (ofJson (write value)) = some value) :
    readOr none (option? read?) (held.map write) = some held := by
  cases held with
  | none => rfl
  | some value => exact option?_of_ne (hne value) (h value rfl)

@[simp] theorem Fields.readOr_string (held : Option String) :
    readOr none (option? text?) (held.map .string) = some held := by
  cases held <;> rfl

theorem Fields.readOr_any {items : List α}
    (h : ∀ item ∈ items, read? (ofJson (write item)) = some item) :
    readOr [] (list? read?) (if items = [] then none else some (.array (items.map write)))
      = some items := by
  split
  · rename_i hnil
    rw [hnil]
    rfl
  · exact list?_written h

end

@[simp] theorem Fields.readOr_strings (texts : List String) :
    readOr [] (list? text?) (if texts = [] then none else some (.array (texts.map .string)))
      = some texts :=
  readOr_any fun _ _ => rfl

end AccessReport
