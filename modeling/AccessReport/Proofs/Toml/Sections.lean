import AccessReport.Proofs.Toml.Lines
/-!
# Tables that grow at their end

Written section by section, a document only ever grows in the part that was written last: a header
opens a table behind everything in the table around it, or an element behind those of its list, and
the keys that follow go into that. So the tables on the way to the open one can be told as frames,
each with what stands before, and a statement changes nothing outside the innermost.

* `within_plug`: what is done to the open table leaves the frames around it as they are.
* `step_table`, `step_element`, `foldlM_assignments`: one statement, and the keys of a section.
* `Builds.table`, `Builds.element`, `Builds.elements`: sections, and lists of tables.
* `documentOf?_of_builds`: the document that comes out.
-/
namespace AccessReport.Toml

open Document

/-! ## Entries -/

theorem lookup_last {key : String} {before : Entries} (h : key ∉ before.map (·.1)) (item : Item) :
    (before ++ [(key, item)]).lookup key = some item := by
  rw [List.lookup_append, Grouping.lookup_of_notMem h, Option.none_or, Grouping.lookup_cons_eq,
    if_pos rfl]

theorem replace_last {key : String} {before : Entries} (h : key ∉ before.map (·.1))
    (item changed : Item) :
    replace key changed (before ++ [(key, item)]) = before ++ [(key, changed)] := by
  induction before with
  | nil => exact if_pos rfl
  | cons entry before ih =>
    rw [List.map_cons, List.mem_cons, not_or] at h
    rw [List.cons_append, replace, if_neg (Ne.symm h.1), ih h.2, List.cons_append]

/-- The entries with a list of tables behind them; there is no empty list of tables. -/
def withTables (key : String) (before : Entries) (elements : List Entries) : Entries :=
  before ++ if elements = [] then [] else [(key, .tables elements)]

theorem withTables_nil (key : String) (before : Entries) : withTables key before [] = before :=
  List.append_nil before

theorem withTables_concat (key : String) (before : Entries) (elements : List Entries)
    (inner : Entries) :
    withTables key before (elements ++ [inner])
      = before ++ [(key, .tables (elements ++ [inner]))] := by
  rw [withTables, if_neg (by simp)]

theorem listed_withTables {names : List String} {before : Entries} (h : Listed names before)
    (key : String) (elements : List Entries) :
    Listed (names ++ [key]) (withTables key before elements) := by
  refine h.append ?_
  split
  · exact List.nil_sublist _
  · exact List.Sublist.refl _

theorem appendKey_withTables {key : String} {before : Entries} (h : key ∉ before.map (·.1))
    (elements : List Entries) :
    appendKey key (withTables key before elements)
      = some (withTables key before (elements ++ [[]])) := by
  rw [withTables_concat]
  by_cases he : elements = []
  · rw [he, withTables_nil, appendKey, Grouping.lookup_of_notMem h]
    rfl
  · rw [withTables, if_neg he, appendKey, lookup_last h]
    simp only [replace_last h]

/-! ## The way to the open table -/

/-- A step on the way from the root to the open table: what stands before it in the table around
it, its key, and the elements before it if it is one of a list. -/
structure Frame where
  before : Entries
  key : String
  elements : Option (List Entries)

namespace Frame

def item (frame : Frame) (inner : Entries) : Item :=
  match frame.elements with
  | none => .table .header inner
  | some elements => .tables (elements ++ [inner])

/-- The table around the open one. -/
def plug (frame : Frame) (inner : Entries) : Entries :=
  frame.before ++ [(frame.key, frame.item inner)]

/-- Nothing before has the same key. -/
def Fresh (frame : Frame) : Prop := frame.key ∉ frame.before.map (·.1)

theorem within_plug {frame : Frame} (h : frame.Fresh)
    (change : Origin → Entries → Option Entries) (path : List String) (origin : Origin)
    (inner : Entries) :
    within .onTheWay enterAny change (frame.key :: path) origin (frame.plug inner)
      = (within .onTheWay enterAny change path .header inner).map frame.plug := by
  obtain ⟨before, key, elements⟩ := frame
  rw [plug, within, lookup_last h, item]
  cases elements with
  | none =>
    simp only [enterAny, if_true, replace_last h]
    cases within .onTheWay enterAny change path .header inner <;> rfl
  | some elements =>
    simp only [replace_last h, List.getLast?_concat, List.dropLast_concat, Option.getD_some]
    cases within .onTheWay enterAny change path .header inner <;> rfl

end Frame

def plug (way : List Frame) (inner : Entries) : Entries := way.foldr Frame.plug inner

def pathOf (way : List Frame) : List String := way.map Frame.key

theorem plug_concat (way : List Frame) (frame : Frame) (inner : Entries) :
    plug (way ++ [frame]) inner = plug way (frame.plug inner) := by
  rw [plug, List.foldr_append]
  rfl

theorem pathOf_concat (way : List Frame) (frame : Frame) :
    pathOf (way ++ [frame]) = pathOf way ++ [frame.key] := List.map_append

theorem fresh_root : ∀ frame ∈ ([] : List Frame), frame.Fresh := by simp

section
variable {way : List Frame} (hway : ∀ frame ∈ way, frame.Fresh)
include hway

theorem fresh_concat (frame : Frame) (h : frame.Fresh) : ∀ other ∈ way ++ [frame], other.Fresh :=
  List.forall_mem_append.mpr ⟨hway, List.forall_mem_singleton.mpr h⟩

/-- The change of the open table is all that happens. -/
theorem within_plug (change : Origin → Entries → Option Entries) (inner : Entries) :
    within .onTheWay enterAny change (pathOf way) .header (plug way inner)
      = (change .header inner).map (plug way) := by
  induction way with
  | nil =>
    rw [pathOf, List.map_nil, within]
    exact (Option.map_id' ..).symm
  | cons frame way ih =>
    have hinner := ih fun other hm => hway other (List.mem_cons_of_mem frame hm)
    have houter := Frame.within_plug (hway frame List.mem_cons_self) change (pathOf way) .header
      (plug way inner)
    rw [hinner, Option.map_map] at houter
    exact houter

/-! ## Statements -/

/-- The header of a new table. -/
theorem step_table {key : String} {inner : Entries} (hkey : key ∉ inner.map (·.1))
    (current : List String) :
    Builder.step ⟨plug way inner, current⟩ (.table (pathOf way ++ [key]))
      = some ⟨plug (way ++ [⟨inner, key, none⟩]) [], pathOf way ++ [key]⟩ := by
  have hopen : openKey key inner = some (inner ++ [(key, .table .header [])]) := by
    rw [openKey, Grouping.lookup_of_notMem hkey]
  rw [Builder.step, Builder.opened, List.getLast?_concat, List.dropLast_concat]
  simp only [Option.bind_eq_bind, Option.bind_some]
  rw [within_plug hway, hopen, plug_concat]
  rfl

/-- The header of the next element of a list of tables. -/
theorem step_element {key : String} {before : Entries} (hkey : key ∉ before.map (·.1))
    (elements : List Entries) (current : List String) :
    Builder.step ⟨plug way (withTables key before elements), current⟩
        (.element (pathOf way ++ [key]))
      = some ⟨plug (way ++ [⟨before, key, some elements⟩]) [], pathOf way ++ [key]⟩ := by
  rw [Builder.step, Builder.opened, List.getLast?_concat, List.dropLast_concat]
  simp only [Option.bind_eq_bind, Option.bind_some]
  rw [within_plug hway, appendKey_withTables hkey, withTables_concat, plug_concat]
  rfl

/-- A key that is new to the open table. -/
theorem step_assignment {key : String} {inner : Entries} (hkey : key ∉ inner.map (·.1))
    (document : Document) :
    Builder.step ⟨plug way inner, pathOf way⟩ (.assignment [key] document)
      = some ⟨plug way (inner ++ [(key, .value document)]), pathOf way⟩ := by
  have hset : assign [key] document .header inner
      = some (inner ++ [(key, .value document)]) := by
    rw [assign]
    simp [within, setKey, Grouping.lookup_of_notMem hkey]
  rw [Builder.step, within_plug hway, hset]
  rfl

/-- The entries of keys with plain values. -/
def valuesOf (keys : List (String × Plain)) : Entries :=
  keys.map fun key => (key.1, .value (ofJson key.2.value))

omit hway in
theorem listed_valuesOf {names : List String} {keys : List (String × Plain)}
    (h : Listed names keys) : Listed names (valuesOf keys) :=
  h.map fun value => Item.value (ofJson value.value)

theorem foldlM_assignments (keys : List (String × Plain)) (inner : Entries)
    (h : (inner.map (·.1) ++ keys.map (·.1)).Nodup) :
    (assignments keys).foldlM Builder.step ⟨plug way inner, pathOf way⟩
      = some ⟨plug way (inner ++ valuesOf keys), pathOf way⟩ := by
  induction keys generalizing inner with
  | nil => rw [valuesOf, List.map_nil, List.append_nil]; rfl
  | cons key keys ih =>
    have hkey : key.1 ∉ inner.map (·.1) := fun hm =>
      (List.nodup_append.mp h).2.2 key.1 hm key.1 List.mem_cons_self rfl
    have hnext := ih (inner ++ [(key.1, .value (ofJson key.2.value))]) (by simpa using h)
    rw [assignments, List.map_cons, List.foldlM_cons, step_assignment hway hkey]
    rw [List.append_assoc] at hnext
    exact hnext

end

/-! ## Sections -/

/-- The statements turn one root into another, whatever is open before them. -/
def Builds (statements : List Statement) (root grown : Entries) : Prop :=
  ∀ current, ∃ opened, statements.foldlM Builder.step ⟨root, current⟩ = some ⟨grown, opened⟩

namespace Builds

theorem nil (root : Entries) : Builds [] root root := fun current => ⟨current, rfl⟩

theorem append {statements more : List Statement} {root grown final : Entries}
    (h : Builds statements root grown) (h' : Builds more grown final) :
    Builds (statements ++ more) root final := by
  intro current
  obtain ⟨opened, hrun⟩ := h current
  obtain ⟨last, hmore⟩ := h' opened
  refine ⟨last, ?_⟩
  rw [List.foldlM_append, hrun]
  exact hmore

variable {way : List Frame} {key : String} {keys : List (String × Plain)}

/-- A table with its keys. -/
theorem table {inner : Entries} (hway : ∀ frame ∈ way, frame.Fresh)
    (hkey : key ∉ inner.map (·.1)) (hkeys : Proper keys) :
    Builds (.table (pathOf way ++ [key]) :: assignments keys) (plug way inner)
      (plug way (inner ++ [(key, .table .header (valuesOf keys))])) := by
  intro current
  have hfresh := fresh_concat hway (⟨inner, key, none⟩ : Frame) hkey
  have hrun := foldlM_assignments hfresh keys [] hkeys.nodup
  refine ⟨pathOf way ++ [key], ?_⟩
  rw [List.foldlM_cons, step_table hway hkey]
  rw [pathOf_concat, List.nil_append, plug_concat way _ (valuesOf keys)] at hrun
  exact hrun

/-- An element of a list of tables, with its keys and what belongs into it. -/
theorem element {before : Entries} {elements : List Entries} {more : List Statement}
    {inner : Entries} (hway : ∀ frame ∈ way, frame.Fresh) (hkey : key ∉ before.map (·.1))
    (hkeys : Proper keys)
    (h : Builds more (plug (way ++ [⟨before, key, some elements⟩]) (valuesOf keys))
      (plug (way ++ [⟨before, key, some elements⟩]) inner)) :
    Builds (.element (pathOf way ++ [key]) :: assignments keys ++ more)
      (plug way (withTables key before elements))
      (plug way (withTables key before (elements ++ [inner]))) := by
  intro current
  have hfresh := fresh_concat hway (⟨before, key, some elements⟩ : Frame) hkey
  have hrun := foldlM_assignments hfresh keys [] hkeys.nodup
  obtain ⟨opened, hmore⟩ := h (pathOf way ++ [key])
  refine ⟨opened, ?_⟩
  rw [pathOf_concat, List.nil_append] at hrun
  rw [plug_concat way _ inner] at hmore
  rw [List.cons_append, List.foldlM_cons, step_element hway hkey, withTables_concat]
  rw [Option.bind_eq_bind, Option.bind_some, List.foldlM_append, hrun]
  exact hmore

theorem leaf {before : Entries} (hway : ∀ frame ∈ way, frame.Fresh)
    (hkey : key ∉ before.map (·.1)) (hkeys : Proper keys) (elements : List Entries) :
    Builds (.element (pathOf way ++ [key]) :: assignments keys)
      (plug way (withTables key before elements))
      (plug way (withTables key before (elements ++ [valuesOf keys]))) := by
  have hbuilds := element hway hkey hkeys
    (nil (plug (way ++ [⟨before, key, some elements⟩]) (valuesOf keys)))
  rwa [List.append_nil] at hbuilds

/-- A list of tables, element by element. -/
theorem elements (way : List Frame) {α : Type} {items : List α} {statements : α → List Statement}
    {entries : α → Entries} {before : Entries}
    (h : ∀ item ∈ items, ∀ first, Builds (statements item)
      (plug way (withTables key before first))
      (plug way (withTables key before (first ++ [entries item])))) :
    Builds (items.flatMap statements) (plug way before)
      (plug way (withTables key before (items.map entries))) := by
  have hall : ∀ first, Builds (items.flatMap statements) (plug way (withTables key before first))
      (plug way (withTables key before (first ++ items.map entries))) := by
    -- elements are appended to whatever elements the list has already
    induction items with
    | nil =>
      intro first
      rw [List.map_nil, List.append_nil]
      exact nil _
    | cons item items ih =>
      intro first
      have hrest := ih (fun other hm => h other (List.mem_cons_of_mem item hm))
        (first ++ [entries item])
      rw [List.append_assoc] at hrest
      exact (h item List.mem_cons_self first).append hrest
  have hbuilds := hall []
  rwa [withTables_nil, List.nil_append] at hbuilds

/-- An element of a list at the root, with a list of tables in it. -/
theorem nested {α : Type} {outer inner : String} {items : List α}
    {itemKeys : α → List (String × Plain)} {before : Entries} (h : outer ∉ before.map (·.1))
    (hkeys : Proper keys) (hinner : inner ∉ keys.map (·.1))
    (hitems : ∀ item ∈ items, Proper (itemKeys item)) (first : List Entries) :
    Builds (.element [outer] :: assignments keys
        ++ items.flatMap fun item => .element [outer, inner] :: assignments (itemKeys item))
      (withTables outer before first)
      (withTables outer before
        (first ++ [withTables inner (valuesOf keys)
          (items.map fun item => valuesOf (itemKeys item))])) := by
  have hway := fresh_concat fresh_root (⟨before, outer, some first⟩ : Frame) h
  have hvalues : inner ∉ (valuesOf keys).map (·.1) := by
    rwa [valuesOf, List.map_map]
  have hlist := elements _ fun item hm before => leaf hway hvalues (hitems item hm) before
  exact element fresh_root h hkeys hlist

end Builds

/-! ## Documents -/

theorem membersOf_append (entries more : Entries) :
    membersOf (entries ++ more) = membersOf entries ++ membersOf more := by
  induction entries with
  | nil => rfl
  | cons entry entries ih => rw [List.cons_append, membersOf, membersOf, ih, List.cons_append]

theorem membersOf_valuesOf (keys : List (String × Plain)) :
    membersOf (valuesOf keys) = keys.map fun key => (key.1, ofJson key.2.value) := by
  induction keys with
  | nil => rfl
  | cons key keys ih => rw [valuesOf, List.map_cons, membersOf, List.map_cons, ← ih]; rfl

theorem objectsOf_eq (elements : List Entries) :
    objectsOf elements = elements.map fun entries => .object (membersOf entries) := by
  induction elements with
  | nil => rfl
  | cons entries elements ih => rw [objectsOf, ih, List.map_cons]

/-- The keys of the root come first. -/
theorem documentOf?_of_builds {keys : List (String × Plain)} (hkeys : Proper keys)
    {statements : List Statement} {root : Entries} (h : Builds statements (valuesOf keys) root) :
    documentOf? (assignments keys ++ statements) = some (.object (membersOf root)) := by
  have hrun : (assignments keys).foldlM Builder.step ⟨[], []⟩ = some ⟨valuesOf keys, []⟩ :=
    foldlM_assignments fresh_root keys [] hkeys.nodup
  obtain ⟨opened, hmore⟩ := h []
  rw [documentOf?, Builder.start, List.foldlM_append, hrun]
  simp only [Option.bind_eq_bind, Option.bind_some, hmore]
  rfl

end AccessReport.Toml
