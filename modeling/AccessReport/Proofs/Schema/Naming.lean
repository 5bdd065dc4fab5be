import AccessReport.Proofs.Json.Data
import AccessReport.Schema.Naming
/-!
# Names at every depth

A name stands at a place: the positions in lists and objects that lead to it. The names that offend
are gathered from everywhere in a value, each before those inside it, which is the order of their
places.

Results:
* `Json.ofChildren`: what passes from the children of a value to the value holds of all values.
* `exists_listing`: all names of a value, place by place.
* `exists_listing_offending`, `offending_ne_nil_iff`: those that offend, and whether there are any.
* `wellNamed_array`, `wellNamed_object`, `WellNamed.sorted`: values in which none does.
-/
namespace AccessReport

namespace Json

/-! ## Names at places -/

/-- What a list or an object holds, the members of an object with their names. -/
def children : Json → List (Option String × Json)
  | .array items => items.map fun item => (none, item)
  | .object members => members.map fun member => (some member.1, member.2)
  | _ => []

/-- The name at a place. A place is a way into a value, by positions in its lists and objects. -/
def nameAt? (value : Json) : List Nat → Option String
  | [] => none
  | i :: place => value.children[i]?.bind fun child =>
    if place = [] then child.1 else child.2.nameAt? place

theorem sizeOf_child_lt {value : Json} {child : Option String × Json} (h : child ∈ value.children) :
    sizeOf child.2 < sizeOf value := by
  cases value with
  | array items =>
    obtain ⟨item, hitem, rfl⟩ := List.mem_map.mp h
    have := List.sizeOf_lt_of_mem hitem
    simp only [Json.array.sizeOf_spec]
    omega
  | object members =>
    obtain ⟨member, hmember, rfl⟩ := List.mem_map.mp h
    have := List.sizeOf_lt_of_mem hmember
    obtain ⟨name, value⟩ := member
    simp only [Json.object.sizeOf_spec, Prod.mk.sizeOf_spec] at this ⊢
    omega
  | _ => simp [children] at h

/-- What passes from the children of a value to the value holds of all values. -/
theorem ofChildren {motive : Json → Prop}
    (step : ∀ value, (∀ child ∈ value.children, motive child.2) → motive value) (value : Json) :
    motive value :=
  step value fun child _ => ofChildren step child.2
termination_by sizeOf value
decreasing_by exact sizeOf_child_lt ‹_›

end Json

open Json

namespace Naming

theorem itemNames_eq (items : List Json) : itemNames items = items.flatMap fieldNames := by
  induction items with
  | nil => rfl
  | cons item items ih => simp [itemNames, ih]

theorem memberNames_eq (members : List (String × Json)) :
    memberNames members = members.flatMap fun member => member.1 :: fieldNames member.2 := by
  induction members with
  | nil => rfl
  | cons member members ih => simp [memberNames, ih]

theorem fieldNames_eq (value : Json) :
    fieldNames value
      = value.children.flatMap fun child => child.1.toList ++ fieldNames child.2 := by
  cases value <;> simp [fieldNames, children, itemNames_eq, memberNames_eq, List.flatMap_map]

/-- The names at places of which each leads to one, in the order of the places. -/
structure Listing (nameAt? : List Nat → Option String) (placed : List (List Nat × String)) :
    Prop where
  ascending : placed.Pairwise (·.1 < ·.1)
  complete : ∀ entry, entry ∈ placed ↔ nameAt? entry.1 = some entry.2

/-- The name at a place in a child, its own name being there before any step. -/
def childAt? (child : Option String × Json) (place : List Nat) : Option String :=
  if place = [] then child.1 else child.2.nameAt? place

/-- The name at a place in one of the children, the first of which is at the given position. -/
def childrenAt? (start : Nat) (children : List (Option String × Json)) : List Nat → Option String
  | [] => none
  | i :: place => if i < start then none else children[i - start]?.bind (childAt? · place)

theorem nameAt?_eq (value : Json) : value.nameAt? = childrenAt? 0 value.children := by
  funext place
  cases place <;> rfl

theorem childrenAt?_cons (start : Nat) (child : Option String × Json)
    (rest : List (Option String × Json)) (i : Nat) (place : List Nat) :
    childrenAt? start (child :: rest) (i :: place)
      = if i = start then childAt? child place else childrenAt? (start + 1) rest (i :: place) := by
  unfold childrenAt?
  rcases Nat.lt_trichotomy i start with hlt | rfl | hgt
  · simp [hlt, Nat.ne_of_lt hlt, Nat.lt_succ_of_lt hlt]
  · simp
  · have hsub : i - start = i - (start + 1) + 1 := by omega
    have hle : ¬i < start + 1 := by omega
    simp [Nat.lt_asymm hgt, Nat.ne_of_gt hgt, hle, hsub]

/-- The way to a name in the children starts at the position of one of them. -/
theorem exists_of_childrenAt? {start : Nat} {children : List (Option String × Json)}
    {place : List Nat} {name : String} (h : childrenAt? start children place = some name) :
    ∃ i inner, place = i :: inner ∧ start ≤ i := by
  cases place with
  | nil => simp [childrenAt?] at h
  | cons i inner =>
    refine ⟨i, inner, rfl, ?_⟩
    by_cases hi : i < start
    · simp [childrenAt?, hi] at h
    · omega

theorem listing_child {child : Option String × Json} {placed : List (List Nat × String)}
    (h : Listing child.2.nameAt? placed) :
    Listing (childAt? child) (child.1.toList.map ([], ·) ++ placed) := by
  have hroot : ∀ entry ∈ placed, entry.1 ≠ [] := by
    intro entry hentry hnil
    have := (h.complete entry).mp hentry
    simp [hnil, nameAt?] at this
  constructor
  · rw [List.pairwise_append]
    refine ⟨?_, h.ascending, ?_⟩
    · cases child.1 <;> simp
    · intro own hown entry hentry
      obtain ⟨name, -, rfl⟩ := List.mem_map.mp hown
      cases hplace : entry.1 with
      | nil => exact absurd hplace (hroot entry hentry)
      | cons i place => exact List.nil_lt_cons i place
  · intro entry
    obtain ⟨place, name⟩ := entry
    unfold childAt?
    by_cases hplace : place = []
    · have hnot : ([], name) ∉ placed := fun hm => hroot _ hm rfl
      cases hname : child.1 <;> simp [hplace, hnot, eq_comm]
    · simp [hplace, h.complete, Ne.symm hplace]

/-- An entry one step further down, behind a position. -/
def below (i : Nat) (entry : List Nat × String) : List Nat × String := (i :: entry.1, entry.2)

theorem mem_map_below {placed : List (List Nat × String)} {i j : Nat} {place : List Nat}
    {name : String} :
    (j :: place, name) ∈ placed.map (below i) ↔ j = i ∧ (place, name) ∈ placed := by
  simp [below, eq_comm, and_comm, and_assoc]

theorem listing_children {children : List (Option String × Json)}
    (h : ∀ child ∈ children, ∃ placed, Listing (childAt? child) placed ∧
      placed.map (·.2) = child.1.toList ++ fieldNames child.2) (start : Nat) :
    ∃ placed, Listing (childrenAt? start children) placed ∧
      placed.map (·.2) = children.flatMap fun child => child.1.toList ++ fieldNames child.2 := by
  induction children generalizing start with
  | nil =>
    refine ⟨[], ⟨.nil, ?_⟩, rfl⟩
    intro ⟨place, name⟩
    cases place <;> simp [childrenAt?]
  | cons child rest ih =>
    obtain ⟨own, hown, hownNames⟩ := h child List.mem_cons_self
    obtain ⟨others, hothers, hothersNames⟩ :=
      ih (fun other ho => h other (List.mem_cons_of_mem _ ho)) (start + 1)
    refine ⟨own.map (below start) ++ others, ⟨?_, ?_⟩, ?_⟩
    · rw [List.pairwise_append, List.pairwise_map]
      refine ⟨?_, hothers.ascending, ?_⟩
      · exact hown.ascending.imp fun hlt => List.cons_lt_cons_iff.mpr (.inr ⟨rfl, hlt⟩)
      · intro first hfirst entry hentry
        obtain ⟨own, -, rfl⟩ := List.mem_map.mp hfirst
        obtain ⟨i, inner, hplace, hi⟩ := exists_of_childrenAt? ((hothers.complete entry).mp hentry)
        rw [hplace]
        exact List.cons_lt_cons_iff.mpr (.inl (by omega))
    · intro ⟨place, name⟩
      rw [List.mem_append, hothers.complete]
      cases place with
      | nil => simp [childrenAt?, below]
      | cons i place =>
        rw [mem_map_below, hown.complete, childrenAt?_cons]
        by_cases hi : i = start
        · simp [hi, childrenAt?]
        · simp [hi]
    · have hbelow : (own.map (below start)).map (·.2) = own.map (·.2) := by
        simp [below]
      simp [hbelow, hownNames, hothersNames]

/-- Every name of a value is listed with its place. -/
theorem exists_listing (value : Json) :
    ∃ placed, Listing value.nameAt? placed ∧ placed.map (·.2) = fieldNames value := by
  induction value using ofChildren with
  | step value ih =>
    rw [nameAt?_eq, fieldNames_eq]
    refine listing_children ?_ 0
    intro child hchild
    obtain ⟨placed, hplaced, hnames⟩ := ih child hchild
    refine ⟨_, listing_child hplaced, ?_⟩
    simp [hnames, Function.comp_def]

/-! ## Names that offend -/

def IsLetterOrDigit (c : Char) : Prop :=
  ('a' ≤ c ∧ c ≤ 'z') ∨ ('A' ≤ c ∧ c ≤ 'Z') ∨ ('0' ≤ c ∧ c ≤ '9')

/-- Only letters and digits, the first a small letter; or one of the three names with hyphens. -/
def Conventional (name : String) : Prop :=
  (∃ first rest, name.toList = first :: rest ∧ ('a' ≤ first ∧ first ≤ 'z') ∧
      ∀ c ∈ rest, IsLetterOrDigit c) ∨
    name ∈ ["css-selector", "how-to-fix-web", "how-to-check-web"]

theorem isAlphanum_iff {c : Char} : c.isAlphanum = true ↔ IsLetterOrDigit c := by
  have halpha : c.isAlphanum = (c.isUpper || c.isLower || c.isDigit) := rfl
  have hupper : c.isUpper = decide ('A' ≤ c ∧ c ≤ 'Z') := rfl
  have hlower : c.isLower = (decide ('a' ≤ c) && decide (c ≤ 'z')) := rfl
  have hdigit : c.isDigit = (decide ('0' ≤ c) && decide (c ≤ '9')) := rfl
  simp [halpha, hupper, hlower, hdigit, IsLetterOrDigit, or_assoc, or_left_comm]

theorem isAllowed_iff {name : String} : isAllowed name = true ↔ Conventional name := by
  unfold isAllowed isCamelCase Conventional
  rw [Bool.or_eq_true, hyphenated, List.contains_iff_mem]
  apply or_congr_left
  cases name.toList with
  | nil => simp
  | cons first rest =>
    have hlower : first.isLower = (decide ('a' ≤ first) && decide (first ≤ 'z')) := rfl
    simp [hlower, isAlphanum_iff]

/-- The names that offend are listed in the order of their places, once for each place, and no name
is passed over. -/
theorem exists_listing_offending (value : Json) :
    ∃ placed : List (List Nat × String), placed.Pairwise (·.1 < ·.1) ∧
      (∀ place name, (place, name) ∈ placed ↔
        value.nameAt? place = some name ∧ ¬Conventional name) ∧
      offending value = placed.map (·.2) := by
  obtain ⟨placed, hlisting, hnames⟩ := exists_listing value
  refine ⟨placed.filter fun entry => !isAllowed entry.2, hlisting.ascending.filter _, ?_, ?_⟩
  · intro place name
    simp [hlisting.complete, ← isAllowed_iff]
  · rw [offending, ← hnames, List.filter_map]
    rfl

example : offending (.object [("id", .null), ("bad_key", .array [.object [("Worse", .null)]])])
    = ["bad_key", "Worse"] := by decide

/-- A value is refused if and only if a name offends somewhere in it. -/
theorem offending_ne_nil_iff (value : Json) : offending value ≠ [] ↔
    ∃ place name, value.nameAt? place = some name ∧ ¬Conventional name := by
  obtain ⟨placed, -, hplaced, hnames⟩ := exists_listing_offending value
  rw [hnames, ne_eq, List.map_eq_nil_iff]
  constructor
  · intro hne
    obtain ⟨⟨place, name⟩, hentry⟩ := List.exists_mem_of_ne_nil placed hne
    exact ⟨place, name, (hplaced place name).mp hentry⟩
  · intro ⟨place, name, h⟩ hnil
    have hentry := (hplaced place name).mpr h
    simp [hnil] at hentry

/-! ## Values without offending names -/

/-- All names in the value are of an allowed kind. -/
def WellNamed (value : Json) : Prop := ∀ name ∈ fieldNames value, isAllowed name = true

@[simp] theorem wellNamed_string (text : String) : WellNamed (.string text) := by
  simp [WellNamed, fieldNames]

@[simp] theorem wellNamed_bool (flag : Bool) : WellNamed (.bool flag) := by
  simp [WellNamed, fieldNames]

@[simp] theorem wellNamed_array (items : List Json) :
    WellNamed (.array items) ↔ ∀ item ∈ items, WellNamed item := by
  unfold WellNamed
  rw [fieldNames, itemNames_eq]
  constructor
  · intro h item hitem name hname
    exact h name (List.mem_flatMap.mpr ⟨item, hitem, hname⟩)
  · intro h name hname
    obtain ⟨item, hitem, hname⟩ := List.mem_flatMap.mp hname
    exact h item hitem name hname

@[simp] theorem wellNamed_strings (texts : List String) : WellNamed (strings texts) := by
  simp [strings]

@[simp] theorem wellNamed_object (members : List (String × Json)) : WellNamed (.object members) ↔
    ∀ member ∈ members, isAllowed member.1 = true ∧ WellNamed member.2 := by
  unfold WellNamed
  rw [fieldNames, memberNames_eq]
  constructor
  · intro h member hmember
    constructor
    · exact h _ (List.mem_flatMap.mpr ⟨member, hmember, List.mem_cons_self⟩)
    · intro name hname
      exact h name (List.mem_flatMap.mpr ⟨member, hmember, List.mem_cons_of_mem _ hname⟩)
  · intro h name hname
    obtain ⟨member, hmember, hname⟩ := List.mem_flatMap.mp hname
    rcases List.mem_cons.mp hname with rfl | hname
    · exact (h member hmember).1
    · exact (h member hmember).2 name hname

theorem sortedItems_eq (items : List Json) : sortedItems items = items.map sorted := by
  induction items with
  | nil => rfl
  | cons item items ih => simp [sortedItems, ih]

theorem sortedMembers_eq (members : List (String × Json)) :
    sortedMembers members = members.map fun member => (member.1, member.2.sorted) := by
  induction members with
  | nil => rfl
  | cons member members ih => simp [sortedMembers, ih]

/-- Putting members in order brings no new names. -/
theorem WellNamed.sorted {value : Json} (h : WellNamed value) : WellNamed value.sorted := by
  induction value using ofChildren with
  | step value ih =>
    cases value with
    | array items =>
      rw [wellNamed_array] at h
      rw [Json.sorted, sortedItems_eq, wellNamed_array]
      intro item hitem
      obtain ⟨held, hheld, rfl⟩ := List.mem_map.mp hitem
      exact ih (none, held) (by simp [children, hheld]) (h held hheld)
    | object members =>
      rw [wellNamed_object] at h
      rw [Json.sorted, sortedMembers_eq, wellNamed_object]
      intro member hmember
      obtain ⟨held, hheld, rfl⟩ := List.mem_map.mp (mem_sortMembers hmember)
      have hinner := ih (some held.1, held.2) (List.mem_map.mpr ⟨held, hheld, rfl⟩)
      exact ⟨(h held hheld).1, hinner (h held hheld).2⟩
    | _ => exact h

end Naming

end AccessReport
