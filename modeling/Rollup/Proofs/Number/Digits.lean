import Mathlib.Algebra.Group.Nat.Defs
import Mathlib.Data.List.Basic

/-!
# Decimal digits

`Digits` are the characters of a number in decimal, of which any number may be zeros in front,
and `Digits.value` is the number.  `Nat.toDigits` gives the shortest digits of a number
(`Digits.toDigits`, `Digits.value_toDigits`).
-/

namespace Rollup

/-- One digit or more. -/
structure Digits (digits : List Char) : Prop where
  ne_nil : digits ≠ []
  digit : ∀ c ∈ digits, c.isDigit = true

namespace Digits

/-- The number that digits make up. -/
def value (digits : List Char) : Nat := Nat.ofDigitChars 10 digits 0

theorem value_toDigits (n : Nat) : value (Nat.toDigits 10 n) = n := Nat.ofDigitChars_ten_toDigits

theorem value_append (high low : List Char) :
    value (high ++ low) = value high * 10 ^ low.length + value low := by
  rw [value, Nat.ofDigitChars_append, Nat.ofDigitChars_eq_ofDigitChars_zero, Nat.mul_comm]
  rfl

theorem value_replicate_zero (n : Nat) : value (List.replicate n '0') = 0 := by
  rw [value, Nat.ofDigitChars_replicate_zero, Nat.mul_zero]

theorem toDigits (n : Nat) : Digits (Nat.toDigits 10 n) where
  ne_nil := Nat.toDigits_ne_nil
  digit _ hc := Nat.isDigit_of_mem_toDigits (by decide) (by decide) hc

theorem not_mem {digits : List Char} (h : Digits digits) {c : Char} (hc : c.isDigit = false) :
    c ∉ digits := by
  intro hmem
  rw [h.digit c hmem] at hc
  cases hc

theorem getLast?_ne {digits : List Char} (h : Digits digits) {c : Char} (hc : c.isDigit = false) :
    digits.getLast? ≠ some c :=
  fun hlast ↦ h.not_mem hc (List.mem_of_getLast? hlast)

theorem toNat_of_isDigit {c : Char} (h : c.isDigit = true) : 48 ≤ c.toNat ∧ c.toNat ≤ 57 := by
  simp only [Char.isDigit, Bool.and_eq_true, decide_eq_true_eq] at h
  exact ⟨UInt32.le_iff_toNat_le.1 h.1, UInt32.le_iff_toNat_le.1 h.2⟩

end Digits

end Rollup
