import AccessReport.Text.Parts
/-!
# Paths

A path is a text whose components stand between slashes. Components that are empty or a single
point lead nowhere and do not count, but a point at the very beginning does.

Results:
* `settle_length_le`: leaving out what does not count makes a path no longer.
-/
namespace AccessReport.Path

open Text

/-- Whether the path starts at the root. -/
def isAbsolute (path : String) : Bool := ['/'].isPrefixOf path.toList

/-- A path from the directory `base`. -/
def join (base path : String) : String :=
  if isAbsolute path || base.isEmpty then path
  else if ['/'].isSuffixOf base.toList then base ++ path
  else base ++ "/" ++ path

/-- What stands between the slashes. -/
def components (path : String) : List (List Char) := splitAt '/' path.toList

/-- Components, last one first, from the first one on that counts. -/
def settle : List (List Char) → List (List Char)
  | [] => []
  | component :: rest =>
    if component.isEmpty || (component == ['.'] && !rest.isEmpty) then settle rest
    else component :: rest

theorem settle_length_le (components : List (List Char)) :
    (settle components).length ≤ components.length := by
  induction components with
  | nil => simp [settle]
  | cons component rest ih =>
    rw [settle]
    split
    · exact Nat.le_succ_of_le ih
    · exact Nat.le_refl _

/-- The path of components, last one first. Without components it is the root or nothing. -/
def ofSettled (absolute : Bool) : List (List Char) → String
  | [] => if absolute then "/" else ""
  | components => String.ofList (joinWith ['/'] components.reverse)

/-- The paths of the directories that contain the one of the settled components, nearest first. -/
def above (absolute : Bool) : List (List Char) → List String
  | [] => []
  | _ :: rest => ofSettled absolute (settle rest) :: above absolute (settle rest)
termination_by components => components.length
decreasing_by
  exact Nat.lt_succ_of_le (settle_length_le rest)

/-- The directories that contain what the path leads to, nearest first. -/
def ancestors (path : String) : List String :=
  above (isAbsolute path) (settle (components path).reverse)

/-- The path without its last component. The root and the empty path have none. -/
def parent? (path : String) : Option String := (ancestors path).head?

end AccessReport.Path
