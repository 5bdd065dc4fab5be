/-!
# Decimal digits

Whole numbers as decimal digits, without leading zeros, and digits read as a number.

Results:
* `valueOf_digits`: the digits of a number read back as the number.
* `digits_ne_nil`, `digits_isDigit`: there is always a digit, and nothing else.
-/
namespace AccessReport.Numeric

/-- The power of two with an exponent. -/
def twoTo (exponent : Nat) : Nat := Nat.pow 2 exponent

/-- The power of ten with an exponent. -/
def tenTo (exponent : Nat) : Nat := Nat.pow 10 exponent

/-- The character of a digit below ten. -/
def digitChar (digit : Nat) : Char :=
  Char.ofNat (48 + digit)

/-- The value of a digit character. -/
def digitValue (c : Char) : Nat :=
  c.toNat - 48

/-- The decimal digits of a number, without leading zeros. -/
def digits (n : Nat) : List Char :=
  if n < 10 then [digitChar n] else digits (n / 10) ++ [digitChar (n % 10)]

/-- The number that a row of digits means in the given base. -/
def valueIn (base : Nat) (values : List Nat) : Nat :=
  values.foldl (fun total value => base * total + value) 0

/-- The number that a row of decimal digits means. -/
def valueOf (cs : List Char) : Nat :=
  valueIn 10 (cs.map digitValue)

/-- A whole number with its sign; zero and positive numbers have none. -/
def signed (n : Int) : List Char :=
  match n with
  | .ofNat magnitude => digits magnitude
  | .negSucc below => '-' :: digits (below + 1)

/-- The digits with zeros in front, up to the width. -/
def padded (width n : Nat) : List Char :=
  List.replicate (width - (digits n).length) '0' ++ digits n

/-- The value of a hexadecimal digit. -/
def hexValue? (c : Char) : Option Nat :=
  let code := c.toNat
  if 48 ≤ code ∧ code ≤ 57 then some (code - 48)
  else if 97 ≤ code ∧ code ≤ 102 then some (code - 87)
  else if 65 ≤ code ∧ code ≤ 70 then some (code - 55)
  else none

theorem digitChar_toNat (d : Nat) (h : d < 10) : (digitChar d).toNat = 48 + d := by
  have : ∀ i : Fin 10, (digitChar i.val).toNat = 48 + i.val := by decide
  exact this ⟨d, h⟩

theorem digitValue_digitChar (d : Nat) (h : d < 10) : digitValue (digitChar d) = d := by
  rw [digitValue, digitChar_toNat d h, Nat.add_sub_cancel_left]

theorem isDigit_digitChar (d : Nat) (h : d < 10) : (digitChar d).isDigit = true := by
  have : ∀ i : Fin 10, (digitChar i.val).isDigit = true := by decide
  exact this ⟨d, h⟩

theorem valueOf_append (as bs : List Char) :
    valueOf (as ++ bs) = bs.foldl (fun total c => 10 * total + digitValue c) (valueOf as) := by
  simp [valueOf, valueIn, List.foldl_map]

theorem valueOf_digits (n : Nat) : valueOf (digits n) = n := by
  induction n using Nat.strongRecOn with
  | ind n ih =>
    rw [digits]
    split
    · rename_i h
      simp [valueOf, valueIn, digitValue_digitChar n h]
    · rw [valueOf_append, ih (n / 10) (by omega)]
      simp only [List.foldl_cons, List.foldl_nil]
      rw [digitValue_digitChar (n % 10) (Nat.mod_lt _ (by omega))]
      omega

theorem digits_ne_nil (n : Nat) : digits n ≠ [] := by
  rw [digits]
  split <;> simp

theorem digits_isDigit (n : Nat) : ∀ c ∈ digits n, c.isDigit = true := by
  induction n using Nat.strongRecOn with
  | ind n ih =>
    intro c hc
    rw [digits] at hc
    split at hc
    · rename_i h
      rw [List.mem_singleton.mp hc]
      exact isDigit_digitChar n h
    · rcases List.mem_append.mp hc with hc | hc
      · exact ih (n / 10) (by omega) c hc
      · rw [List.mem_singleton.mp hc]
        exact isDigit_digitChar _ (Nat.mod_lt _ (by omega))

end AccessReport.Numeric
