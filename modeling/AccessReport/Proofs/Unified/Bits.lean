import Mathlib.Algebra.Ring.Nat
import AccessReport.Unified.Uid
/-!
# Bits of random uids

The digits of a number give its rest back, so a uid tells all of the bits it was made from but the
six that the version takes. Two uids are as different as the bits that are left.

* `hexDigits_eq_iff`: which numbers have the same last digits.
* `length_ofBits`: how long a uid is.
* `ofBits_eq_iff`: which bits give the same uid.
-/
namespace AccessReport.Uid

/-! ## Digits -/

theorem hexDigit_inj : ∀ a < 16, ∀ b < 16, Json.hexDigit a = Json.hexDigit b → a = b := by
  decide

theorem toNat_lastDigit (number : UInt64) : (number &&& 15).toNat = number.toNat % 16 := by
  rw [UInt64.toNat_and]
  exact Nat.and_two_pow_sub_one_eq_mod number.toNat 4

theorem toNat_shifted (number : UInt64) : (number >>> 4).toNat = number.toNat / 16 := by
  rw [UInt64.toNat_shiftRight]
  exact Nat.shiftRight_eq_div_pow number.toNat 4

theorem length_hexDigits (number : UInt64) (digits : Nat) :
    (hexDigits number digits).length = digits := by
  induction digits generalizing number with
  | zero => rfl
  | succ digits ih => simp [hexDigits, ih]

theorem hexDigits_eq_iff {a b : UInt64} {digits : Nat} :
    hexDigits a digits = hexDigits b digits ↔ a.toNat % 16 ^ digits = b.toNat % 16 ^ digits := by
  induction digits generalizing a b with
  | zero => simp [hexDigits, Nat.mod_one]
  | succ digits ih =>
    have hlast : Json.hexDigit (a.toNat % 16) = Json.hexDigit (b.toNat % 16) ↔
        a.toNat % 16 = b.toNat % 16 :=
      ⟨hexDigit_inj _ (by omega) _ (by omega), congrArg Json.hexDigit⟩
    rw [hexDigits, hexDigits, List.append_singleton_inj, ih, toNat_shifted, toNat_shifted,
      toNat_lastDigit, toNat_lastDigit, hlast, Nat.pow_succ, Nat.mul_comm, Nat.mod_mul, Nat.mod_mul]
    omega

/-! ## Uids -/

/-- Five groups of digits with hyphens between them are as many characters as this. -/
theorem length_ofBits (high low : UInt64) : (ofBits high low).toList.length = 36 := by
  simp [ofBits, length_hexDigits]

/-- Bits that are set in every number do not tell numbers apart. -/
theorem or_mark_eq_iff (a b : UInt64) {mask mark : UInt64} (h : mark &&& mask = 0) :
    a &&& mask ||| mark = b &&& mask ||| mark ↔ a &&& mask = b &&& mask := by
  have hback : ∀ number : UInt64, (number &&& mask ||| mark) &&& mask = number &&& mask := by
    intro number
    apply UInt64.toNat_inj.mp
    have hmark := congrArg UInt64.toNat h
    simp only [UInt64.toNat_and, UInt64.toNat_or, UInt64.toNat_zero] at hmark ⊢
    rw [Nat.and_or_distrib_right, hmark, Nat.and_assoc, Nat.and_self, Nat.or_zero]
  constructor
  · intro heq
    rw [← hback a, heq, hback b]
  · intro heq
    rw [heq]

/-- All digits of both numbers stand in the groups, each of them once. -/
theorem groups_inj {high low high' low' : UInt64}
    (h : hexDigits (high >>> 32) 8 ++ ['-'] ++ hexDigits (high >>> 16) 4 ++ ['-']
        ++ hexDigits high 4 ++ ['-'] ++ hexDigits (low >>> 48) 4 ++ ['-'] ++ hexDigits low 12
      = hexDigits (high' >>> 32) 8 ++ ['-'] ++ hexDigits (high' >>> 16) 4 ++ ['-']
        ++ hexDigits high' 4 ++ ['-'] ++ hexDigits (low' >>> 48) 4 ++ ['-'] ++ hexDigits low' 12) :
    high = high' ∧ low = low' := by
  obtain ⟨h, hlast⟩ := List.append_inj' h (by simp only [length_hexDigits])
  obtain ⟨h, hfourth⟩ := List.append_inj' (List.append_inj_left' h rfl)
    (by simp only [length_hexDigits])
  obtain ⟨h, hthird⟩ := List.append_inj' (List.append_inj_left' h rfl)
    (by simp only [length_hexDigits])
  obtain ⟨h, hsecond⟩ := List.append_inj' (List.append_inj_left' h rfl)
    (by simp only [length_hexDigits])
  have hfirst := List.append_inj_left' h rfl
  rw [hexDigits_eq_iff] at hfirst hsecond hthird hfourth hlast
  simp only [UInt64.toNat_shiftRight, Nat.shiftRight_eq_div_pow, UInt64.reduceToNat, Nat.reduceMod,
    Nat.reducePow] at hfirst hsecond hfourth
  have hhigh := high.toNat_lt
  have hhigh' := high'.toNat_lt
  have hlow := low.toNat_lt
  have hlow' := low'.toNat_lt
  constructor
  · apply UInt64.toNat_inj.mp
    omega
  · apply UInt64.toNat_inj.mp
    omega

/-- **Random uids.** Two uids are the same just if the bits outside the marks of the version are. -/
theorem ofBits_eq_iff {high low high' low' : UInt64} :
    ofBits high low = ofBits high' low' ↔
      high &&& 0xFFFFFFFFFFFF0FFF = high' &&& 0xFFFFFFFFFFFF0FFF ∧
        low &&& 0x3FFFFFFFFFFFFFFF = low' &&& 0x3FFFFFFFFFFFFFFF := by
  have hversion : (0x4000 : UInt64) &&& 0xFFFFFFFFFFFF0FFF = 0 := by decide
  have hvariant : (0x8000000000000000 : UInt64) &&& 0x3FFFFFFFFFFFFFFF = 0 := by decide
  rw [← or_mark_eq_iff high high' hversion, ← or_mark_eq_iff low low' hvariant]
  constructor
  · intro h
    exact groups_inj (String.ofList_inj.mp h)
  · intro ⟨hhigh, hlow⟩
    simp only [ofBits, hhigh, hlow]

end AccessReport.Uid
