import AccessReport.Numeric.Digits
import Mathlib.Algebra.Group.Nat.Defs
import Mathlib.Data.List.Induction
import Mathlib.Order.Basic
/-!
# Numerals

A numeral is a number of digits that mean a number. Numerals of the same length are ordered as
texts in the way in which their numbers are ordered, so a text made of such numerals and fixed signs
between them is compared number by number.

* `digits_eq_repr`, `ofList_signed`: digits are the usual decimal ones.
* `Numeral.padded`: zeros in front make a numeral of the length that is asked for.
* `compare_digits`: the order of rows of digits.
* `Numeral.append_lt_append_iff`, `Numeral.append_inj`: texts that begin with numerals.
-/
namespace AccessReport.Numeric

/-! ## Decimal texts -/

theorem digitChar_eq {d : Nat} (h : d < 10) : digitChar d = d.digitChar := by
  have : ∀ i : Fin 10, digitChar i.val = i.val.digitChar := by decide
  exact this ⟨d, h⟩

theorem digits_eq_repr (n : Nat) : digits n = n.repr.toList := by
  induction n using Nat.strongRecOn with
  | ind n ih =>
    rw [digits]
    split
    · rename_i h
      rw [Nat.repr_of_lt h, digitChar_eq h]
      simp
    · rename_i h
      rw [Nat.repr_of_ge (by omega), ih (n / 10) (by omega), digitChar_eq (by omega)]
      simp

/-- A whole number is written as usual. -/
theorem ofList_signed (n : Int) : String.ofList (signed n) = toString n := by
  rw [← String.toList_inj, String.toList_ofList]
  cases n with
  | ofNat n =>
    rw [signed, digits_eq_repr]
    rfl
  | negSucc n =>
    rw [signed, digits_eq_repr, Int.toString_eq_repr, Int.repr]
    simp

theorem mem_signed {n : Int} {c : Char} (h : c ∈ signed n) : c = '-' ∨ c.isDigit = true := by
  cases n with
  | ofNat n => exact .inr (digits_isDigit n c h)
  | negSucc n =>
    rcases List.mem_cons.mp h with rfl | h
    · exact .inl rfl
    · exact .inr (digits_isDigit (n + 1) c h)

theorem digits_inj {m n : Nat} (h : digits m = digits n) : m = n := by
  rw [← valueOf_digits m, h, valueOf_digits]

theorem signed_inj {m n : Int} (h : signed m = signed n) : m = n := by
  -- A minus is no digit.
  have hsign {m n : Nat} : digits m ≠ '-' :: digits n := fun he =>
    absurd (digits_isDigit m '-' (he ▸ List.mem_cons_self)) (by decide)
  cases m with
  | ofNat m =>
    cases n with
    | ofNat n => rw [digits_inj h]
    | negSucc n => exact absurd h hsign
  | negSucc m =>
    cases n with
    | ofNat n => exact absurd h.symm hsign
    | negSucc n => rw [Nat.add_right_cancel (digits_inj (List.cons.inj h).2)]

/-! ## Numerals -/

/-- So many digits that mean a number. -/
structure Numeral (width n : Nat) (cs : List Char) : Prop where
  length : cs.length = width
  isDigit : ∀ c ∈ cs, c.isDigit = true
  value : valueOf cs = n

/-- A numeral means one number. -/
theorem Numeral.unique {width width' m n : Nat} {cs : List Char} (h : Numeral width m cs)
    (h' : Numeral width' n cs) : m = n :=
  h.value.symm.trans h'.value

theorem length_padded (width n : Nat) :
    (padded width n).length = max width n.repr.length := by
  rw [padded, List.length_append, List.length_replicate, digits_eq_repr, String.length_toList]
  omega

theorem isDigit_padded (width n : Nat) : ∀ c ∈ padded width n, c.isDigit = true := by
  intro c hc
  rw [padded, List.mem_append, List.mem_replicate] at hc
  rcases hc with ⟨-, rfl⟩ | hc
  · rfl
  · exact digits_isDigit n c hc

theorem valueOf_zeros (count : Nat) : valueOf (List.replicate count '0') = 0 := by
  induction count with
  | zero => rfl
  | succ count ih =>
    rw [List.replicate_succ', valueOf_append, ih]
    rfl

theorem valueOf_padded (width n : Nat) : valueOf (padded width n) = n := by
  rw [padded, valueOf_append, valueOf_zeros]
  exact (valueOf_append [] (digits n)).symm.trans (valueOf_digits n)

theorem Numeral.of_padded (width n : Nat) :
    Numeral (max width n.repr.length) n (Numeric.padded width n) :=
  ⟨length_padded width n, isDigit_padded width n, valueOf_padded width n⟩

theorem Numeral.padded {width n : Nat} (hpos : 0 < width) (h : n < 10 ^ width) :
    Numeral width n (Numeric.padded width n) := by
  have hlength : max width n.repr.length = width :=
    Nat.max_eq_left ((Nat.length_repr_le_iff hpos).mpr h)
  have hpadded := Numeral.of_padded width n
  rwa [hlength] at hpadded

/-! ## Order -/

theorem append_lt_append_iff {α : Type} [LT α] {as bs : List α} (h : as.length = bs.length)
    (xs ys : List α) :
    as ++ xs < bs ++ ys ↔ as < bs ∨ as = bs ∧ xs < ys := by
  induction as generalizing bs with
  | nil =>
    obtain rfl : bs = [] := List.length_eq_zero_iff.mp h.symm
    simp
  | cons a as ih =>
    obtain ⟨b, bs, rfl⟩ := List.exists_cons_of_length_eq_add_one h.symm
    simp only [List.length_cons, Nat.add_right_cancel_iff] at h
    rw [List.cons_append, List.cons_append, List.cons_lt_cons_iff, List.cons_lt_cons_iff, ih h,
      List.cons.injEq]
    tauto

theorem isDigit_bounds {c : Char} (h : c.isDigit = true) : 48 ≤ c.toNat ∧ c.toNat ≤ 57 :=
  Char.isDigit_iff_toNat.mp h

theorem digitValue_lt_iff {c d : Char} (hc : c.isDigit = true) (hd : d.isDigit = true) :
    digitValue c < digitValue d ↔ c < d := by
  have hlt : c < d ↔ c.toNat < d.toNat := Iff.rfl
  have := isDigit_bounds hc
  have := isDigit_bounds hd
  rw [hlt, digitValue, digitValue]
  omega

theorem digitValue_eq_iff {c d : Char} (hc : c.isDigit = true) (hd : d.isDigit = true) :
    digitValue c = digitValue d ↔ c = d := by
  have := isDigit_bounds hc
  have := isDigit_bounds hd
  rw [← Char.toNat_inj, digitValue, digitValue]
  omega

theorem valueOf_concat (cs : List Char) (c : Char) :
    valueOf (cs ++ [c]) = 10 * valueOf cs + digitValue c :=
  valueOf_append cs [c]

/-- Rows of as many digits are ordered as the numbers that they mean. -/
theorem compare_digits {as bs : List Char} (hlength : as.length = bs.length)
    (has : ∀ c ∈ as, c.isDigit = true) (hbs : ∀ c ∈ bs, c.isDigit = true) :
    (as < bs ↔ valueOf as < valueOf bs) ∧ (as = bs ↔ valueOf as = valueOf bs) := by
  induction as using List.reverseRecOn generalizing bs with
  | nil =>
    obtain rfl : bs = [] := List.length_eq_zero_iff.mp hlength.symm
    simp
  | append_singleton as c ih =>
    obtain ⟨bs, d, rfl⟩ : ∃ bs' d, bs = bs' ++ [d] := by
      rcases List.eq_nil_or_concat bs with rfl | ⟨bs, d, rfl⟩
      · simp at hlength
      · exact ⟨bs, d, List.concat_eq_append⟩
    simp only [List.length_append, List.length_singleton, Nat.add_right_cancel_iff] at hlength
    simp only [List.forall_mem_append, List.forall_mem_singleton] at has hbs
    obtain ⟨hlt, heq⟩ := ih hlength has.1 hbs.1
    have hvalue := digitValue_lt_iff has.2 hbs.2
    have hsame := digitValue_eq_iff has.2 hbs.2
    -- The last digit counts where the others are the same.
    have := isDigit_bounds has.2
    have := isDigit_bounds hbs.2
    rw [append_lt_append_iff hlength, hlt, heq, valueOf_concat, valueOf_concat,
      List.cons_lt_cons_iff, List.append_singleton_inj, heq, ← hvalue, ← hsame]
    simp only [List.not_lt_nil, and_false, or_false]
    unfold digitValue
    omega

namespace Numeral

variable {width m n : Nat} {as bs : List Char}

/-- Numerals in front of texts are compared first. -/
theorem append_lt_append_iff (ha : Numeral width m as) (hb : Numeral width n bs)
    (xs ys : List Char) : as ++ xs < bs ++ ys ↔ m < n ∨ m = n ∧ xs < ys := by
  have hlength := ha.length.trans hb.length.symm
  obtain ⟨hlt, heq⟩ := compare_digits hlength ha.isDigit hb.isDigit
  rw [Numeric.append_lt_append_iff hlength, hlt, heq, ha.value, hb.value]

theorem append_inj (ha : Numeral width m as) (hb : Numeral width n bs) {xs ys : List Char}
    (h : as ++ xs = bs ++ ys) : m = n ∧ xs = ys := by
  obtain ⟨rfl, hrest⟩ := List.append_inj h (ha.length.trans hb.length.symm)
  exact ⟨ha.unique hb, hrest⟩

end Numeral
end AccessReport.Numeric
