import AccessReport.Text.EditDistance
import Mathlib.Data.List.Induction
import Mathlib.Order.Bounds.Basic
import Mathlib.Order.MinMax
/-!
# The least number of edits

What the rows compute is the least number of edits. Between the two stands `cost`, the recursion on
the first characters of both texts: a row holds the costs of the beginnings, read backwards, since
it grows at the end (`row_eq`); no edit changes a cost by more than one (`cost_le_of_step`), and
edits as many as the cost lead from one text to the other (`edits_cost`).

* `isLeast_distance`: the distance is the least number of edits.
* `distance_comm`, `distance_eq_zero_iff`, `distance_triangle`: so it is a metric.
* `distance_of_texts`: all of this for the characters of texts.
-/
namespace AccessReport.Text.Edit

variable {α : Type}

/-! ## Edits -/

/-- One character is put in, taken out or replaced. -/
inductive Step : List α → List α → Prop where
  | insert (before : List α) (c : α) (after : List α) :
    Step (before ++ after) (before ++ c :: after)
  | delete (before : List α) (c : α) (after : List α) :
    Step (before ++ c :: after) (before ++ after)
  | substitute (before : List α) (c d : α) (after : List α) :
    Step (before ++ c :: after) (before ++ d :: after)

/-- So many edits, one after the other, turn one text into another. -/
inductive Edits : Nat → List α → List α → Prop where
  | none (a : List α) : Edits 0 a a
  | step {n : Nat} {a b c : List α} (first : Step a b) (rest : Edits n b c) : Edits (n + 1) a c

theorem Step.symm {a b : List α} (h : Step a b) : Step b a := by
  cases h with
  | insert before c after => exact .delete before c after
  | delete before c after => exact .insert before c after
  | substitute before c d after => exact .substitute before d c after

theorem Step.cons {a b : List α} (c : α) (h : Step a b) : Step (c :: a) (c :: b) := by
  cases h with
  | insert before d after => exact .insert (c :: before) d after
  | delete before d after => exact .delete (c :: before) d after
  | substitute before d e after => exact .substitute (c :: before) d e after

theorem Step.reverse {a b : List α} (h : Step a b) : Step a.reverse b.reverse := by
  cases h with
  | insert before c after =>
    simpa using Step.insert after.reverse c before.reverse
  | delete before c after =>
    simpa using Step.delete after.reverse c before.reverse
  | substitute before c d after =>
    simpa using Step.substitute after.reverse c d before.reverse

namespace Edits

theorem trans {m n : Nat} {a b c : List α} (h : Edits m a b) (h' : Edits n b c) :
    Edits (m + n) a c := by
  induction h with
  | none a => rwa [Nat.zero_add]
  | step first rest ih =>
    rw [Nat.succ_add]
    exact .step first (ih h')

theorem symm {n : Nat} {a b : List α} (h : Edits n a b) : Edits n b a := by
  induction h with
  | none a => exact .none a
  | step first rest ih => exact ih.trans (.step first.symm (.none _))

theorem cons {n : Nat} {a b : List α} (c : α) (h : Edits n a b) : Edits n (c :: a) (c :: b) := by
  induction h with
  | none a => exact .none (c :: a)
  | step first rest ih => exact .step (first.cons c) ih

theorem reverse {n : Nat} {a b : List α} (h : Edits n a b) : Edits n a.reverse b.reverse := by
  induction h with
  | none a => exact .none a.reverse
  | step first rest ih => exact .step first.reverse ih

theorem reverse_iff {n : Nat} {a b : List α} : Edits n a.reverse b.reverse ↔ Edits n a b := by
  refine ⟨fun h => ?_, reverse⟩
  simpa using h.reverse

theorem zero_iff {a b : List α} : Edits 0 a b ↔ a = b := by
  constructor
  · intro h
    cases h
    rfl
  · rintro rfl
    exact .none a

/-- Every character of a text is put in. -/
theorem insertAll (b : List α) : Edits b.length [] b := by
  induction b with
  | nil => exact .none []
  | cons d b ih => exact .step (.insert [] d []) (ih.cons d)

end Edits

/-! ## The recursion on first characters -/

variable [DecidableEq α]

/-- The cost of turning one text into another: the first character of the second is put in, or the
first of the first is taken out, or the one is replaced by the other, for nothing if it is equal. -/
def cost : List α → List α → Nat
  | [], b => b.length
  | a, [] => a.length
  | c :: a, d :: b =>
    min (min (cost (c :: a) b + 1) (cost a (d :: b) + 1))
      (if c = d then cost a b else cost a b + 1)
termination_by a b => a.length + b.length

@[simp] theorem cost_nil_left (b : List α) : cost [] b = b.length := by
  rw [cost]

@[simp] theorem cost_nil_right (a : List α) : cost a [] = a.length := by
  cases a <;> simp [cost]

theorem cost_cons_cons (c d : α) (a b : List α) :
    cost (c :: a) (d :: b) = min (min (cost (c :: a) b + 1) (cost a (d :: b) + 1))
      (if c = d then cost a b else cost a b + 1) := by
  rw [cost]

theorem cost_self (a : List α) : cost a a = 0 := by
  induction a with
  | nil => exact cost_nil_left []
  | cons c a ih => simp [cost_cons_cons, ih]

/-- The first character can always be taken out. -/
theorem cost_cons_le (c : α) (a b : List α) : cost (c :: a) b ≤ cost a b + 1 := by
  cases b with
  | nil => simp
  | cons d b =>
    rw [cost_cons_cons]
    omega

/-- One more character to reach costs no more than putting it in. -/
theorem cost_le_cons (d : α) (a b : List α) : cost a (d :: b) ≤ cost a b + 1 := by
  cases a with
  | nil => simp
  | cons c a =>
    rw [cost_cons_cons]
    omega

/-- One character less to start from costs at most one more. -/
theorem cost_le_cost_cons (c : α) (a b : List α) : cost a b ≤ cost (c :: a) b + 1 := by
  induction b with
  | nil => simp; omega
  | cons d b ih =>
    have hput := cost_le_cons d a b
    rw [cost_cons_cons]
    split <;> omega

theorem cost_cons_le_cost_cons (c d : α) (a b : List α) :
    cost (c :: a) b ≤ cost (d :: a) b + 1 := by
  induction b with
  | nil => simp
  | cons e b ih =>
    rw [cost_cons_cons, cost_cons_cons]
    split <;> split <;> omega

/-- Behind a common first character costs differ by no more than before. -/
theorem cost_cons_congr {a a' : List α} (h : ∀ b, cost a b ≤ cost a' b + 1) (c : α)
    (b : List α) : cost (c :: a) b ≤ cost (c :: a') b + 1 := by
  induction b with
  | nil => simpa using h []
  | cons d b ih =>
    have htake := h (d :: b)
    have hkeep := h b
    rw [cost_cons_cons, cost_cons_cons]
    split <;> omega

theorem cost_append_congr {a a' : List α} (h : ∀ b, cost a b ≤ cost a' b + 1) (before : List α)
    (b : List α) : cost (before ++ a) b ≤ cost (before ++ a') b + 1 := by
  induction before generalizing b with
  | nil => exact h b
  | cons c before ih => exact cost_cons_congr ih c b

/-- An edit lowers the cost by at most one. -/
theorem cost_le_of_step {a a' : List α} (h : Step a a') (b : List α) :
    cost a b ≤ cost a' b + 1 := by
  cases h with
  | insert before c after => exact cost_append_congr (cost_le_cost_cons c after) before b
  | delete before c after => exact cost_append_congr (cost_cons_le c after) before b
  | substitute before c d after =>
    exact cost_append_congr (cost_cons_le_cost_cons c d after) before b

theorem cost_le_of_edits {n : Nat} {a b : List α} (h : Edits n a b) : cost a b ≤ n := by
  induction h with
  | none a => rw [cost_self]
  | @step n a a' b first rest ih =>
    have hfirst := cost_le_of_step first b
    omega

/-- As many edits as the cost lead from one text to the other. -/
theorem edits_cost (a b : List α) : Edits (cost a b) a b := by
  induction a, b using cost.induct with
  | case1 b => simpa using Edits.insertAll b
  | case2 a => simpa using (Edits.insertAll a).symm
  | case3 c a d b hput htake hkeep =>
    -- the three ways to go on from two first characters, whichever is the cheapest
    have hput : Edits (cost (c :: a) b + 1) (c :: a) (d :: b) :=
      .step (.insert [] d (c :: a)) (hput.cons d)
    have htake : Edits (cost a (d :: b) + 1) (c :: a) (d :: b) :=
      .step (.delete [] c a) htake
    have hkeep : Edits (if c = d then cost a b else cost a b + 1) (c :: a) (d :: b) := by
      split
      · rename_i h
        subst h
        exact hkeep.cons c
      · exact .step (.substitute [] c d a) (hkeep.cons d)
    rw [cost_cons_cons]
    rcases min_choice (min (cost (c :: a) b + 1) (cost a (d :: b) + 1))
        (if c = d then cost a b else cost a b + 1) with h | h
    · rw [h]
      rcases min_choice (cost (c :: a) b + 1) (cost a (d :: b) + 1) with h | h
      · rwa [h]
      · rwa [h]
    · rwa [h]

theorem isLeast_cost (a b : List α) : IsLeast {n | Edits n a b} (cost a b) :=
  ⟨edits_cost a b, fun _ h => cost_le_of_edits h⟩

/-! ## The rows -/

/-- The costs of turning `a` into what stands before `b`, in reverse, with one more character of
`b` after the other. -/
def costs (a before : List α) : List α → List Nat
  | [] => []
  | d :: b => cost a (d :: before) :: costs a (d :: before) b

theorem costs_nil (before b : List α) :
    costs [] before b = List.range' (before.length + 1) b.length := by
  induction b generalizing before with
  | nil => rfl
  | cons d b ih => simp [costs, ih, List.range'_succ]

/-- The three entries that a new one is computed from are the costs of the three ways to go on. -/
theorem fillRow_costs (c : α) (a before b : List α) :
    fillRow c (cost a before) (cost (c :: a) before) b (costs a before b)
      = costs (c :: a) before b := by
  induction b generalizing before with
  | nil => rfl
  | cons d b ih => rw [costs, fillRow, costs, ← cost_cons_cons, ih]

theorem nextRow_costs (c : α) (a b : List α) :
    nextRow b (cost a [] :: costs a [] b) c = cost (c :: a) [] :: costs (c :: a) [] b := by
  have hfirst : cost a [] + 1 = cost (c :: a) [] := by simp
  rw [nextRow, hfirst, fillRow_costs]

theorem row_eq (a b : List α) : row a b = cost a.reverse [] :: costs a.reverse [] b := by
  induction a using List.reverseRecOn with
  | nil =>
    rw [row, List.foldl_nil, List.reverse_nil, costs_nil, cost_nil_left, List.range_eq_range',
      List.range'_succ]
    rfl
  | append_singleton a c ih =>
    rw [row] at ih ⊢
    rw [List.foldl_append, ih, List.foldl_cons, List.foldl_nil, nextRow_costs, List.reverse_append]
    rfl

/-- The last entry belongs to the whole of `b`. -/
theorem getLastD_costs (a before b : List α) :
    (cost a before :: costs a before b).getLastD 0 = cost a (b.reverse ++ before) := by
  induction b generalizing before with
  | nil => rfl
  | cons d b ih =>
    rw [costs, List.reverse_cons, List.append_assoc, List.singleton_append, ← ih]
    simp

theorem distance_eq_cost (a b : List α) : distance a b = cost a.reverse b.reverse := by
  rw [distance, row_eq, getLastD_costs, List.append_nil]

/-! ## The distance -/

theorem isLeast_distance (a b : List α) : IsLeast {n | Edits n a b} (distance a b) := by
  have h := isLeast_cost a.reverse b.reverse
  rwa [← distance_eq_cost, Set.ext fun n => Edits.reverse_iff] at h

theorem distance_le_of_edits {n : Nat} {a b : List α} (h : Edits n a b) : distance a b ≤ n :=
  (isLeast_distance a b).2 h

theorem distance_comm (a b : List α) : distance a b = distance b a :=
  Nat.le_antisymm (distance_le_of_edits (isLeast_distance b a).1.symm)
    (distance_le_of_edits (isLeast_distance a b).1.symm)

theorem distance_eq_zero_iff {a b : List α} : distance a b = 0 ↔ a = b := by
  constructor
  · intro h
    have hleast := (isLeast_distance a b).1
    rw [h] at hleast
    exact Edits.zero_iff.mp hleast
  · intro h
    exact Nat.le_zero.mp (distance_le_of_edits (Edits.zero_iff.mpr h))

theorem distance_triangle (a b c : List α) : distance a c ≤ distance a b + distance b c :=
  distance_le_of_edits ((isLeast_distance a b).1.trans (isLeast_distance b c).1)

/-- The distance of two texts is the least number of edits of single characters that turn one into
the other, and a metric. -/
theorem distance_of_texts (a b : String) :
    IsLeast {n | Edits n a.toList b.toList} (distance a.toList b.toList) ∧
      distance a.toList b.toList = distance b.toList a.toList ∧
      (distance a.toList b.toList = 0 ↔ a = b) ∧
      ∀ c : String, distance a.toList c.toList
        ≤ distance a.toList b.toList + distance b.toList c.toList :=
  ⟨isLeast_distance _ _, distance_comm _ _, distance_eq_zero_iff.trans String.toList_inj,
    fun _ => distance_triangle _ _ _⟩

/-- Characters count, however many bytes they have. -/
example : distance "übung".toList "ubung".toList = 1 := by decide

end AccessReport.Text.Edit
