import AccessReport.Files.Fault
import AccessReport.Files.Path
/-!
# File trees

A tree of files and directories in memory, and what reading and writing does to it. A location is
the list of names from the root; a path is followed name by name, from the root or from the
working directory.

Results:
* `find?_put`: what was put somewhere is found there.
* `find?_put_other`: elsewhere all stays as it was.
-/
namespace AccessReport

open Text

inductive FileTree.Entry where
  | file (text : String)
  | directory
deriving DecidableEq, Repr

structure FileTree where
  /-- The location of the working directory. -/
  home : List String
  entries : List (List String × FileTree.Entry)
deriving DecidableEq, Repr

namespace FileTree

/-- What is at a location. The working directory and all above it are always there. -/
def find? (tree : FileTree) (location : List String) : Option Entry :=
  match tree.entries.lookup location with
  | some entry => some entry
  | none => if location.isPrefixOf tree.home then some .directory else none

/-- The tree with an entry at a location. -/
def put (tree : FileTree) (location : List String) (entry : Entry) : FileTree :=
  { tree with entries := (location, entry) :: tree.entries.filter (·.1 != location) }

def remove (tree : FileTree) (location : List String) : FileTree :=
  { tree with entries := tree.entries.filter (·.1 != location) }

theorem find?_put (tree : FileTree) (location : List String) (entry : Entry) :
    (tree.put location entry).find? location = some entry := by
  simp [find?, put]

theorem lookup_filter_ne {other location : List String} (h : other ≠ location)
    (entries : List (List String × Entry)) :
    (entries.filter (·.1 != location)).lookup other = entries.lookup other := by
  induction entries with
  | nil => rfl
  | cons held rest ih =>
    obtain ⟨place, entry⟩ := held
    by_cases hp : place = location
    · subst hp
      have hne : (other == place) = false := by simpa using h
      simp [List.filter, List.lookup_cons, hne, ih]
    · have hkeep : (place != location) = true := by simpa using hp
      simp only [List.filter, hkeep, List.lookup_cons, ih]

theorem find?_put_other (tree : FileTree) {location other : List String} (entry : Entry)
    (h : other ≠ location) : (tree.put location entry).find? other = tree.find? other := by
  have hne : (other == location) = false := by simpa using h
  simp [find?, put, List.lookup_cons, hne, lookup_filter_ne h]

/-! ## Following paths -/

/-- The most bytes of a name. -/
def maxName : Nat := 255

/-- The most bytes of a path. -/
def maxPath : Nat := 4095

/-- Whether a component has too many bytes. -/
def isTooLong (component : List Char) : Bool := (String.ofList component).utf8ByteSize > maxName

/-- Refuses paths that lead nowhere in any tree. -/
def checkPath (path : String) : Except FileFault Unit :=
  if path.toList.contains '\x00' then .error .invalidName
  else if path.isEmpty then .error .notFound
  else if path.utf8ByteSize > maxPath then .error .nameTooLong
  else .ok ()

/-- The location reached by components from another one. -/
def walk (tree : FileTree) : List String → List (List Char) → Except FileFault (List String)
  | location, [] => .ok location
  | location, component :: rest => match tree.find? location with
    | none => .error .notFound
    | some (.file _) => .error .notDirectory
    | some .directory =>
      if component.isEmpty || component == ['.'] then walk tree location rest
      else if component == ['.', '.'] then walk tree location.dropLast rest
      else if isTooLong component then .error .nameTooLong
      else walk tree (location ++ [String.ofList component]) rest

/-- Where paths start. -/
def start (tree : FileTree) (path : String) : List String :=
  if Path.isAbsolute path then [] else tree.home

/-- The location of something that exists. -/
def locate (tree : FileTree) (path : String) : Except FileFault (List String) := do
  checkPath path
  let location ← tree.walk (tree.start path) (Path.components path)
  match tree.find? location with
  | some _ => pure location
  | none => throw .notFound

/-- The full path of something that exists. -/
def canonical (tree : FileTree) (path : String) : Except FileFault String :=
  (tree.locate path).map fun location => "/" ++ "/".intercalate location

def isDirectory (tree : FileTree) (path : String) : Bool :=
  match tree.locate path with
  | .ok location => tree.find? location == some .directory
  | .error _ => false

def read (tree : FileTree) (path : String) : Except FileFault String := do
  match tree.find? (← tree.locate path) with
  | some (.file text) => pure text
  | some .directory => throw .isDirectory
  | none => throw .notFound

/-! ## Changing the tree -/

/-- The directory in which the last component of a path stands, and that component. -/
def place (tree : FileTree) (path : String) : Except FileFault (List String × List Char) := do
  checkPath path
  match (Path.components path).reverse.dropWhile (·.isEmpty) with
  | [] => throw .isDirectory
  | name :: before =>
    let directory ← tree.walk (tree.start path) before.reverse
    match tree.find? directory with
    | some .directory => if isTooLong name then throw .nameTooLong else pure (directory, name)
    | some (.file _) => throw .notDirectory
    | none => throw .notFound

/-- Whether a component names nothing new. -/
def isPoint (name : List Char) : Bool := name == ['.'] || name == ['.', '.']

/-- The tree with a new directory. -/
def createDir (tree : FileTree) (path : String) : Except FileFault FileTree := do
  let (directory, name) ← tree.place path
  let location := directory ++ [String.ofList name]
  if isPoint name || (tree.find? location).isSome then throw .alreadyExists
  pure (tree.put location .directory)

/-- Changes that have come to a halt: the fault, and the tree as it is left. -/
structure Halted where
  fault : FileFault
  left : FileTree
deriving DecidableEq, Repr

/-- The same, where a directory that is there already is no fault. -/
def ensureDir (tree : FileTree) (path : String) : Except Halted FileTree :=
  match tree.createDir path with
  | .ok created => .ok created
  | .error fault => if tree.isDirectory path then .ok tree else .error ⟨fault, tree⟩

/-- The tree with a directory and those that contain it, which are given nearest first and made
only if the directory cannot be found without them. -/
def createDirsFrom (tree : FileTree) (path : String) : List String → Except Halted FileTree
  | [] => tree.ensureDir path
  | parent :: above =>
    if path.isEmpty then .ok tree
    else match tree.createDir path with
      | .ok created => .ok created
      | .error .notFound => do (← createDirsFrom tree parent above).ensureDir path
      | .error fault => if tree.isDirectory path then .ok tree else .error ⟨fault, tree⟩

/-- The tree with a directory and all those that contain it. Those that are made before a fault
stay. -/
def createDirs (tree : FileTree) (path : String) : Except Halted FileTree :=
  if path.isEmpty then .ok tree else tree.createDirsFrom path (Path.ancestors path)

/-- The tree with a text in a file, new or not. -/
def write (tree : FileTree) (path : String) (text : String) : Except FileFault FileTree := do
  let (directory, name) ← tree.place path
  let location := directory ++ [String.ofList name]
  if isPoint name || ['/'].isSuffixOf path.toList then throw .isDirectory
  match tree.find? location with
  | some .directory => throw .isDirectory
  | _ => pure (tree.put location (.file text))

/-- The tree with a file below a location, and with the directories on the way to it. -/
def plant (tree : FileTree) (location : List String) (text : String) :
    List (List Char) → FileTree
  | [] => tree
  | [name] => tree.put (location ++ [String.ofList name]) (.file text)
  | name :: rest =>
    let below := location ++ [String.ofList name]
    (tree.put below .directory).plant below text rest

/-- The working directory with files at paths in it. -/
def ofFiles (home : List String) (files : List (String × String)) : FileTree :=
  files.foldl (fun tree file => tree.plant home file.2
    ((Path.components file.1).filter fun name => !name.isEmpty && name != ['.']))
    { home, entries := [] }

end FileTree
end AccessReport
