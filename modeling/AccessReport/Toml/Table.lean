import AccessReport.Json.Document
/-!
# TOML tables

The statements of a TOML text build up a tree of tables: headers open tables and elements of lists
of tables, assignments set keys in the table that is open. A key may have several parts, each
leading one table deeper.

How a table came about decides what may be added to it later:

* a table that a header opened cannot be opened again, nor be extended by keys with several parts
  of another table;
* a table that only lies on the way to another one may still be opened;
* a table that such a key made can only be extended by further keys of that kind, or lie on the
  way to another table.
-/
namespace AccessReport.Toml

/-- How a table came about. -/
inductive Origin where
  /-- By its own header. -/
  | header
  /-- On the way of the header of another table. -/
  | onTheWay
  /-- On the way of a key with several parts. -/
  | dotted
deriving DecidableEq, Repr

/-- What a key holds: a value, a table, or a list of tables. -/
inductive Item where
  | value (document : Document)
  | table (origin : Origin) (entries : List (String × Item))
  | tables (elements : List (List (String × Item)))

/-- The keys of a table with what they hold. -/
abbrev Entries := List (String × Item)

/-- The entries with another item under a key that they have. -/
def replace (key : String) (item : Item) : Entries → Entries
  | [] => []
  | entry :: rest => if entry.1 = key then (key, item) :: rest else entry :: replace key item rest

/-- Changes the table that a path leads to. Missing tables on the way come about as `created`;
tables can be entered if `enter` allows it; of a list of tables the last one is entered. -/
def within (created : Origin) (enter : Origin → Bool)
    (change : Origin → Entries → Option Entries) :
    List String → Origin → Entries → Option Entries
  | [], origin, entries => change origin entries
  | key :: path, _, entries =>
    match entries.lookup key with
    | none => do
      let inner ← within created enter change path created []
      pure (entries ++ [(key, .table created inner)])
    | some (.table origin inner) =>
      if enter origin then do
        let inner ← within created enter change path origin inner
        pure (replace key (.table origin inner) entries)
      else none
    | some (.tables elements) => do
      let last ← within created enter change path .header (elements.getLast?.getD [])
      pure (replace key (.tables (elements.dropLast ++ [last])) entries)
    | some (.value _) => none

/-- Every table may be entered on the way of a header. -/
def enterAny (_ : Origin) : Bool := true

/-- A key with several parts cannot enter a table that has a header. -/
def enterDotted (origin : Origin) : Bool := origin != .header

/-- A table is opened under a key. -/
def openKey (key : String) (entries : Entries) : Option Entries :=
  match entries.lookup key with
  | none => some (entries ++ [(key, .table .header [])])
  | some (.table .onTheWay inner) => some (replace key (.table .header inner) entries)
  | some _ => none

/-- An element is added to the list of tables under a key. -/
def appendKey (key : String) (entries : Entries) : Option Entries :=
  match entries.lookup key with
  | none => some (entries ++ [(key, .tables [[]])])
  | some (.tables elements) => some (replace key (.tables (elements ++ [[]])) entries)
  | some _ => none

/-- A key is set in the table that its other parts lead to. -/
def setKey (dotted : Bool) (key : String) (value : Document) (origin : Origin)
    (entries : Entries) : Option Entries :=
  if (origin == .dotted) != dotted then none
  else match entries.lookup key with
    | none => some (entries ++ [(key, .value value)])
    | some _ => none

/-- Sets a key, given by its parts, in the table that is entered with the entries. -/
def assign (path : List String) (value : Document) (origin : Origin) (entries : Entries) :
    Option Entries := do
  let key ← path.getLast?
  let way := path.dropLast
  within .dotted enterDotted (setKey (!way.isEmpty) key value) way origin entries

/-! ## Statements -/

inductive Statement where
  | table (path : List String)
  | element (path : List String)
  | assignment (path : List String) (value : Document)

/-- All tables so far, and the path of the one that is open. -/
structure Builder where
  root : Entries
  current : List String

namespace Builder

def start : Builder := ⟨[], []⟩

/-- A header opens something under the last part of its path. -/
def opened (b : Builder) (path : List String) (change : String → Entries → Option Entries) :
    Option Builder := do
  let key ← path.getLast?
  let root ← within .onTheWay enterAny (fun _ => change key) path.dropLast .header b.root
  pure ⟨root, path⟩

def step (b : Builder) : Statement → Option Builder
  | .table path => b.opened path openKey
  | .element path => b.opened path appendKey
  | .assignment path value => do
    let root ← within .onTheWay enterAny (assign path value) b.current .header b.root
    pure { b with root }

end Builder

/-! ## Tables as documents -/

mutual

def Item.toDocument : Item → Document
  | .value document => document
  | .table _ entries => .object (membersOf entries)
  | .tables elements => .array (objectsOf elements)

def membersOf : List (String × Item) → List (String × Document)
  | [] => []
  | (key, item) :: rest => (key, item.toDocument) :: membersOf rest

def objectsOf : List (List (String × Item)) → List Document
  | [] => []
  | entries :: rest => .object (membersOf entries) :: objectsOf rest

end

/-- The document that a row of statements builds. -/
def documentOf? (statements : List Statement) : Option Document := do
  let built ← statements.foldlM Builder.step .start
  pure (.object (membersOf built.root))

/-- The document of an inline table: assignments that nothing else extends. -/
def inlineDocument? (assignments : List (List String × Document)) : Option Document := do
  let entries ← assignments.foldlM
    (fun entries assignment => assign assignment.1 assignment.2 .header entries) []
  pure (.object (membersOf entries))

end AccessReport.Toml
