import AccessReport.Files.Tree
/-!
# Surroundings

What a command finds around it: files, variables, and the text on its standard input.

Results:
* `exists_iff`: a path exists if and only if it leads somewhere.
-/
namespace AccessReport

structure Surroundings where
  read : String → Except FileFault String
  /-- The one full path of what a path leads to. -/
  canonical : String → Except FileFault String
  value? : String → Option String
  input : Except FileFault String

namespace Surroundings

/-- Whether a path leads somewhere. -/
def exists? (around : Surroundings) (path : String) : Bool := (around.canonical path).isOk

theorem exists_iff (around : Surroundings) (path : String) :
    around.exists? path = true ↔ ∃ location, around.canonical path = .ok location := by
  cases h : around.canonical path <;> simp [exists?, h, Except.isOk, Except.toBool]

/-- The surroundings of a file tree with the given variables and input. -/
def ofTree (tree : FileTree) (environment : List (String × String)) (input : String) :
    Surroundings where
  read := tree.read
  canonical := tree.canonical
  value? name := environment.lookup name
  input := .ok input

end Surroundings
end AccessReport
