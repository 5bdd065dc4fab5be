import AccessReport.Proofs.Json.Records
import Mathlib.Data.List.Forall2
/-!
# Data of any form

A document without a fixed form is kept as a value that says the same: the same numbers and texts,
lists item by item, objects member by member. An object does not keep the order of its members, and
one that gives a name several times says what it says last.

* `Says`: a value says what a document says.
* `Json.lookup_sortMembers`, `Json.pairwise_sortMembers`: putting members in order keeps the last
  one under each name.
* `says_of_value?`: what is kept of a document says what the document says.
-/
namespace AccessReport

open Json Document

/-! ## Members in order -/

namespace Json

theorem lookup_put (name : String) (value : Json) (members : List (String × Json))
    (other : String) :
    (put name value members).lookup other
      = if other = name then some value else members.lookup other := by
  induction members with
  | nil => rw [put, Grouping.lookup_cons_eq]
  | cons member rest ih =>
    obtain ⟨first, held⟩ := member
    rw [put]
    split
    · rename_i hsame
      rw [Grouping.lookup_cons_eq, Grouping.lookup_cons_eq, ← hsame]
      split <;> rfl
    · rename_i hne
      split
      · rw [Grouping.lookup_cons_eq]
      · rw [Grouping.lookup_cons_eq, Grouping.lookup_cons_eq, ih]
        by_cases ho : other = first
        · rw [if_pos ho, if_pos ho, if_neg fun he => hne (he.symm.trans ho)]
        · rw [if_neg ho, if_neg ho]

theorem mem_put {name : String} {value : Json} {members : List (String × Json)}
    {member : String × Json} (h : member ∈ put name value members) :
    member = (name, value) ∨ member ∈ members := by
  induction members with
  | nil => exact .inl (List.mem_singleton.mp h)
  | cons first rest ih =>
    rw [put] at h
    split at h
    · rcases List.mem_cons.mp h with rfl | hm
      · exact .inl rfl
      · exact .inr (List.mem_cons_of_mem _ hm)
    · split at h
      · rcases List.mem_cons.mp h with rfl | hm
        · exact .inl rfl
        · exact .inr hm
      · rcases List.mem_cons.mp h with rfl | hm
        · exact .inr List.mem_cons_self
        · exact (ih hm).imp_right (List.mem_cons_of_mem _)

theorem pairwise_put {name : String} {value : Json} {members : List (String × Json)}
    (h : members.Pairwise fun member later => member.1 < later.1) :
    (put name value members).Pairwise fun member later => member.1 < later.1 := by
  induction members with
  | nil => exact List.pairwise_singleton _ _
  | cons first rest ih =>
    obtain ⟨hfirst, hrest⟩ := List.pairwise_cons.mp h
    rw [put]
    split
    · rename_i hsame
      refine List.pairwise_cons.mpr ⟨fun later hl => ?_, hrest⟩
      rw [hsame]
      exact hfirst later hl
    · rename_i hne
      split
      · rename_i hlt
        refine List.pairwise_cons.mpr ⟨fun later hl => ?_, h⟩
        rcases List.mem_cons.mp hl with rfl | hm
        · exact hlt
        · exact String.lt_trans hlt (hfirst later hm)
      · rename_i hnot
        have hlt : first.1 < name := by
          by_contra hle
          exact hne (String.le_antisymm (String.not_lt.mp hle) (String.not_lt.mp hnot))
        refine List.pairwise_cons.mpr ⟨fun later hl => ?_, ih hrest⟩
        rcases mem_put hl with hname | hm
        · rw [hname]
          exact hlt
        · exact hfirst later hm

theorem pairwise_sortMembers (members : List (String × Json)) :
    (sortMembers members).Pairwise fun member later => member.1 < later.1 := by
  induction members using List.reverseRecOn with
  | nil => exact List.Pairwise.nil
  | append_singleton members member ih =>
    rw [sortMembers, List.foldl_concat]
    exact pairwise_put ih

theorem mem_sortMembers {members : List (String × Json)} {member : String × Json}
    (h : member ∈ sortMembers members) : member ∈ members := by
  induction members using List.reverseRecOn with
  | nil => exact h
  | append_singleton members last ih =>
    rw [sortMembers, List.foldl_concat] at h
    rcases mem_put h with rfl | hm
    · simp
    · simp [ih hm]

/-- The last member under a name stays. -/
theorem lookup_sortMembers (members : List (String × Json)) (name : String) :
    (sortMembers members).lookup name = members.reverse.lookup name := by
  induction members using List.reverseRecOn with
  | nil => rfl
  | append_singleton members member ih =>
    rw [sortMembers, List.foldl_concat, lookup_put, List.reverse_append, List.reverse_singleton,
      List.singleton_append, Grouping.lookup_cons_eq, ← ih]
    rfl

end Json

/-! ## What a value says -/

namespace Document

/-- A value says what a document says. -/
inductive Says : Document → Json → Prop where
  | null : Says .null .null
  | bool (value : Bool) : Says (.bool value) (.bool value)
  | number (value : Json.Number) : Says (.number value) (.number value)
  | string (value : String) : Says (.string value) (.string value)
  | array {items : List Document} {values : List Json} (h : List.Forall₂ Says items values) :
    Says (.array items) (.array values)
  | object {members : List (String × Document)} {held : List (String × Json)}
    (sorted : held.Pairwise fun member later => member.1 < later.1)
    (last : ∀ name, Option.Rel Says (members.reverse.lookup name) (held.lookup name)) :
    Says (.object members) (.object held)

/-- Members with related contents, under the same names. -/
def Memberwise (members : List (String × Document)) (held : List (String × Json)) : Prop :=
  List.Forall₂ (fun member value => member.1 = value.1 ∧ Says member.2 value.2) members held

theorem Memberwise.lookup {members : List (String × Document)} {held : List (String × Json)}
    (h : Memberwise members held) (name : String) :
    Option.Rel Says (members.lookup name) (held.lookup name) := by
  induction h with
  | nil => exact .none
  | @cons member value members held hmember _ ih =>
    rw [Grouping.lookup_cons_eq, Grouping.lookup_cons_eq, ← hmember.1]
    split
    · exact .some hmember.2
    · exact ih

theorem says_object {members : List (String × Document)} {held : List (String × Json)}
    (h : Memberwise members held) : Says (.object members) (.object (sortMembers held)) := by
  refine .object (pairwise_sortMembers held) fun name => ?_
  have hreverse : Memberwise members.reverse held.reverse := List.rel_reverse h
  rw [lookup_sortMembers]
  exact hreverse.lookup name

mutual

/-- What is kept of a document says what the document says. -/
theorem says_of_value? : {document : Document} → {value : Json} →
    document.value? = some value → Says document value
  | .null, _, rfl => .null
  | .bool value, _, rfl => .bool value
  | .number value, _, rfl => .number value
  | .string value, _, rfl => .string value
  | .array items, value, h => by
    obtain ⟨values, hv, rfl⟩ := Option.map_eq_some_iff.mp h
    exact .array (says_of_values? hv)
  | .object members, value, h => by
    obtain ⟨held, hh, rfl⟩ := Option.map_eq_some_iff.mp h
    exact says_object (says_of_memberValues? hh)
  | .unusable, _, h => nomatch h

theorem says_of_values? : {items : List Document} → {values : List Json} →
    values? items = some values → List.Forall₂ Says items values
  | [], _, rfl => .nil
  | item :: rest, values, h => by
    obtain ⟨value, hv, h⟩ := Option.bind_eq_some_iff.mp h
    obtain ⟨others, ho, h⟩ := Option.bind_eq_some_iff.mp h
    cases h
    exact .cons (says_of_value? hv) (says_of_values? ho)

theorem says_of_memberValues? : {members : List (String × Document)} →
    {held : List (String × Json)} → memberValues? members = some held → Memberwise members held
  | [], _, rfl => .nil
  | (name, document) :: rest, held, h => by
    obtain ⟨value, hv, h⟩ := Option.bind_eq_some_iff.mp h
    obtain ⟨others, ho, h⟩ := Option.bind_eq_some_iff.mp h
    cases h
    exact .cons ⟨rfl, says_of_value? hv⟩ (says_of_memberValues? ho)

end

end Document
end AccessReport
