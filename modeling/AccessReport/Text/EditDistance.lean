/-!
# Edit distance

The least number of insertions, deletions and substitutions of one character that turn one text
into another, computed row by row: the row of a text `a` holds the distances from `a` to every
beginning of `b`, the empty one first.
-/
namespace AccessReport.Text.Edit

variable {α : Type} [DecidableEq α]

/-- The rest of a row for one more character `c`. Of the entry to be computed, `diagonal` is the
one above its left neighbour, and `left` is its left neighbour. -/
def fillRow (c : α) (diagonal left : Nat) : List α → List Nat → List Nat
  | d :: b, above :: row =>
    let entry := min (min (left + 1) (above + 1)) (if c = d then diagonal else diagonal + 1)
    entry :: fillRow c above entry b row
  | _, _ => []

/-- The row for one more character. -/
def nextRow (b : List α) (row : List Nat) (c : α) : List Nat :=
  match row with
  | [] => []
  | first :: rest => (first + 1) :: fillRow c first (first + 1) b rest

/-- The distances from `a` to the beginnings of `b`. -/
def row (a b : List α) : List Nat := a.foldl (nextRow b) (List.range (b.length + 1))

/-- The least number of edits that turn `a` into `b` (`levenshtein`). -/
def distance (a b : List α) : Nat := (row a b).getLastD 0

end AccessReport.Text.Edit
