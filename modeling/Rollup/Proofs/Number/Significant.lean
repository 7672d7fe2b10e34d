import Mathlib.Algebra.Order.Field.Power
import Mathlib.Data.Int.Log
import Mathlib.Data.Rat.Floor
import Rollup.Number.Writing
import Rollup.Proofs.Number.Rounding

/-!
# Significant digits

`Significant places q digits exponent` says that `digits * 10 ^ (exponent - places)`, where
`digits` has one digit in front of the point and `places` behind it, is what rounding `q` to so
many digits is to give: the place of the last digit is counted from the first digit of `q`, and
ties go to the even neighbour.

There is one such number (`Significant.unique`), and `Writing.scientific` computes it
(`significant_scientific`).  If the digits carry into the next power of ten, the last of them
stands one place higher than `q` was rounded at; rounding `q` at that place instead gives the same
digits (`Significant.nearestTo`).
-/

namespace Rollup

/-! ## The first digit -/

theorem log10_eq (n : ℕ) : log10 n = Nat.log 10 n := by
  induction n using Nat.strong_induction_on with
  | _ n ih =>
    rw [log10]
    split
    · rename_i hlt
      exact (Nat.log_of_lt hlt).symm
    · rename_i hge
      rw [ih (n / 10) (by omega), Nat.log_of_one_lt_of_le (by decide) (Nat.le_of_not_lt hge)]

theorem decimalExponent_bounds {num den : ℕ} (hnum : 0 < num) (hden : 0 < den) :
    (10 : ℚ) ^ decimalExponent num den ≤ num / den ∧
      (num : ℚ) / den < 10 ^ (decimalExponent num den + 1) := by
  have hpos : (0 : ℚ) < den := Nat.cast_pos.2 hden
  rw [le_div_iff₀ hpos, div_lt_iff₀ hpos, decimalExponent]
  split
  · rename_i hge
    have hquotient : num / den ≠ 0 := (Nat.div_pos hge hden).ne'
    have hlow : 10 ^ log10 (num / den) ≤ num / den := by
      rw [log10_eq]
      exact Nat.pow_log_le_self 10 hquotient
    have hhigh : num / den < 10 ^ (log10 (num / den) + 1) := by
      rw [log10_eq]
      exact Nat.lt_pow_succ_log_self (by decide) _
    rw [zpow_natCast, ← Nat.cast_add_one, zpow_natCast]
    constructor
    · exact_mod_cast (Nat.le_div_iff_mul_le hden).1 hlow
    · exact_mod_cast (Nat.div_lt_iff_lt_mul hden).1 hhigh
  · rename_i hlt
    have hquotient : (den - 1) / num ≠ 0 := (Nat.div_pos (by omega) hnum).ne'
    have hlow : 10 ^ log10 ((den - 1) / num) * num < den := by
      have hle := Nat.pow_log_le_self 10 hquotient
      rw [← log10_eq, Nat.le_div_iff_mul_le hnum] at hle
      omega
    have hhigh : den ≤ num * 10 ^ (log10 ((den - 1) / num) + 1) := by
      have hle := Nat.lt_pow_succ_log_self (b := 10) (by decide) ((den - 1) / num)
      rw [← log10_eq, Nat.div_lt_iff_lt_mul hnum, Nat.mul_comm] at hle
      exact Nat.le_of_pred_lt hle
    generalize log10 ((den - 1) / num) = k at *
    constructor
    · rw [zpow_neg, zpow_natCast, inv_mul_le_iff₀ (by positivity), mul_comm]
      exact_mod_cast hhigh
    · have hexponent : -((k + 1 : ℕ) : ℤ) + 1 = -(k : ℤ) := by omega
      rw [hexponent, zpow_neg, zpow_natCast, inv_mul_eq_div, lt_div_iff₀ (by positivity), mul_comm]
      exact_mod_cast hlow

/-- The first digit stands at the integral logarithm. -/
theorem decimalExponent_eq {num den : ℕ} (hnum : 0 < num) (hden : 0 < den) :
    decimalExponent num den = Int.log 10 ((num : ℚ) / den) := by
  have hpos : (0 : ℚ) < num / den := div_pos (Nat.cast_pos.2 hnum) (Nat.cast_pos.2 hden)
  obtain ⟨hlow, hhigh⟩ := decimalExponent_bounds hnum hden
  apply Int.le_antisymm
  · exact (Int.zpow_le_iff_le_log (by decide) hpos).1 (by exact_mod_cast hlow)
  · rw [← Int.lt_add_one_iff]
    exact (Int.lt_zpow_iff_log_lt (by decide) hpos).1 (by exact_mod_cast hhigh)

theorem nearestTo_scaledRound (num : ℕ) {den : ℕ} (hden : 0 < den) (shift : ℤ) :
    NearestTo (num / den * 10 ^ shift) (scaledRound num den shift) := by
  rw [scaledRound]
  split
  · rename_i hshift
    obtain ⟨k, rfl⟩ := Int.eq_ofNat_of_zero_le hshift
    have hround := nearestTo_nearestEven (num * 10 ^ k) hden
    have hq : ((num * 10 ^ k : ℕ) : ℚ) / den = num / den * 10 ^ (k : ℤ) := by
      rw [zpow_natCast]
      push_cast
      ring
    rwa [hq] at hround
  · rename_i hshift
    obtain ⟨k, rfl⟩ : ∃ k : ℕ, shift = -(k : ℤ) := ⟨shift.natAbs, by omega⟩
    have hpow : 0 < 10 ^ k := Nat.pow_pos (by decide)
    have hround := nearestTo_nearestEven num (Nat.mul_pos hden hpow)
    have hq : (num : ℚ) / ((den * 10 ^ k : ℕ) : ℚ) = num / den * 10 ^ (-(k : ℤ)) := by
      rw [zpow_neg, zpow_natCast]
      push_cast
      rw [div_mul_eq_div_div, div_eq_mul_inv (_ / _)]
    rw [hq] at hround
    rwa [neg_neg, Int.toNat_natCast]

/-! ## Rounding to so many digits -/

/-- The digits of `q` rounded to one digit in front of the point and `places` behind it, ties to
even, and the exponent of the first of them. -/
structure Significant (places : ℕ) (q : ℚ) (digits : ℕ) (exponent : ℤ) : Prop where
  low : 10 ^ places ≤ digits
  high : digits < 10 ^ (places + 1)
  nearest : ∃ n : ℕ, NearestTo (q * 10 ^ (places - Int.log 10 q)) n ∧
    (digits : ℚ) * 10 ^ (exponent - places) = n * 10 ^ (Int.log 10 q - places)

/-- Digits and their place are those of the value. -/
theorem eq_of_mul_zpow_eq {places a b : ℕ} {x y : ℤ} (ha : 10 ^ places ≤ a ∧ a < 10 ^ (places + 1))
    (hb : 10 ^ places ≤ b ∧ b < 10 ^ (places + 1)) (h : (a : ℚ) * 10 ^ x = b * 10 ^ y) :
    a = b ∧ x = y := by
  have hle : ∀ {a b : ℕ} {x y : ℤ}, a < 10 ^ (places + 1) → 10 ^ places ≤ b →
      (a : ℚ) * 10 ^ x = b * 10 ^ y → y ≤ x := by
    intro a b x y ha hb h
    by_contra hlt
    have hshift : (10 : ℚ) ^ (x + 1) ≤ 10 ^ y := zpow_le_zpow_right₀ (by norm_num) (by omega)
    have hpos : (0 : ℚ) < 10 ^ x := by positivity
    have ha' : (a : ℚ) < 10 ^ (places + 1) := by exact_mod_cast ha
    have hb' : (10 : ℚ) ^ places ≤ b := by exact_mod_cast hb
    have hless : (a : ℚ) * 10 ^ x < b * 10 ^ y :=
      calc (a : ℚ) * 10 ^ x < 10 ^ (places + 1) * 10 ^ x := by gcongr
        _ = 10 ^ places * 10 ^ (x + 1) := by rw [pow_succ, zpow_add_one₀ (by norm_num)]; ring
        _ ≤ b * 10 ^ y := by gcongr
    exact absurd h hless.ne
  obtain rfl : x = y := Int.le_antisymm (hle hb.2 ha.1 h.symm) (hle ha.2 hb.1 h)
  have hpos : (10 : ℚ) ^ x ≠ 0 := by positivity
  exact ⟨Nat.cast_inj.1 (mul_right_cancel₀ hpos h), rfl⟩

namespace Significant

variable {places digits digits' n : ℕ} {q : ℚ} {exponent exponent' : ℤ}

/-- Before the rounding there is one digit in front of the point. -/
theorem scaled_bounds (hq : 0 < q) (places : ℕ) :
    (10 ^ places : ℕ) ≤ q * 10 ^ (places - Int.log 10 q) ∧
      q * 10 ^ (places - Int.log 10 q) < (10 ^ (places + 1) : ℕ) := by
  have hlow : (10 : ℚ) ^ Int.log 10 q ≤ q := by
    exact_mod_cast Int.zpow_log_le_self (b := 10) (by decide) hq
  have hhigh : q < (10 : ℚ) ^ (Int.log 10 q + 1) := by
    exact_mod_cast Int.lt_zpow_succ_log_self (b := 10) (by decide) q
  have hsplit : ∀ e : ℤ, (10 : ℚ) ^ (e + (places - Int.log 10 q)) =
      10 ^ e * 10 ^ (places - Int.log 10 q) := fun e ↦ zpow_add₀ (by norm_num) _ _
  have hpos : (0 : ℚ) < 10 ^ ((places : ℤ) - Int.log 10 q) := by positivity
  push_cast
  constructor
  · calc (10 : ℚ) ^ places = 10 ^ (Int.log 10 q + (places - Int.log 10 q)) := by
          rw [add_sub_cancel, zpow_natCast]
      _ = 10 ^ Int.log 10 q * 10 ^ (places - Int.log 10 q) := hsplit _
      _ ≤ q * 10 ^ (places - Int.log 10 q) := by gcongr
  · calc q * 10 ^ (places - Int.log 10 q)
        < 10 ^ (Int.log 10 q + 1) * 10 ^ (places - Int.log 10 q) := by gcongr
      _ = 10 ^ (Int.log 10 q + 1 + (places - Int.log 10 q)) := (hsplit _).symm
      _ = 10 ^ (places + 1) := by
          rw [← zpow_natCast]
          congr 1
          push_cast
          ring

/-- After the rounding there is one digit in front of the point, or the least number with two. -/
theorem rounded_bounds (hq : 0 < q) (h : NearestTo (q * 10 ^ (places - Int.log 10 q)) n) :
    10 ^ places ≤ n ∧ n ≤ 10 ^ (places + 1) :=
  ⟨h.natCast_le (scaled_bounds hq places).1, h.le_natCast (scaled_bounds hq places).2.le⟩

/-- Digits that did not carry. -/
theorem of_lt (hq : 0 < q) (h : NearestTo (q * 10 ^ (places - Int.log 10 q)) n)
    (hlt : n < 10 ^ (places + 1)) : Significant places q n (Int.log 10 q) where
  low := (rounded_bounds hq h).1
  high := hlt
  nearest := ⟨n, h, rfl⟩

theorem carried_eq (places : ℕ) (e : ℤ) :
    ((10 ^ places : ℕ) : ℚ) * 10 ^ (e + 1 - places) =
      (10 ^ (places + 1) : ℕ) * 10 ^ (e - places) := by
  rw [add_sub_right_comm, zpow_add_one₀ (by norm_num)]
  push_cast
  ring

/-- Digits that carried into the next power of ten. -/
theorem of_carry (h : NearestTo (q * 10 ^ (places - Int.log 10 q)) (10 ^ (places + 1))) :
    Significant places q (10 ^ places) (Int.log 10 q + 1) where
  low := Nat.le_refl _
  high := Nat.pow_lt_pow_succ (by decide)
  nearest := ⟨_, h, carried_eq places _⟩

/-- A number has its digits at one place. -/
theorem unique (h : Significant places q digits exponent)
    (h' : Significant places q digits' exponent') : digits = digits' ∧ exponent = exponent' := by
  obtain ⟨n, hn, heq⟩ := h.nearest
  obtain ⟨n', hn', heq'⟩ := h'.nearest
  obtain rfl := hn.unique hn'
  obtain ⟨hdigits, hplace⟩ :=
    eq_of_mul_zpow_eq ⟨h.low, h.high⟩ ⟨h'.low, h'.high⟩ (heq.trans heq'.symm)
  exact ⟨hdigits, sub_left_inj.1 hplace⟩

/-- The digits are those of `q` rounded at the place where the last of them stands, which is not
the place where it was rounded first if the digits carried. -/
theorem nearestTo (hq : 0 < q) (h : Significant places q digits exponent) :
    NearestTo (q * 10 ^ (places - exponent)) digits := by
  obtain ⟨n, hn, -⟩ := h.nearest
  obtain ⟨-, hle⟩ := rounded_bounds hq hn
  obtain hlt | rfl := Nat.lt_or_eq_of_le hle
  · obtain ⟨rfl, rfl⟩ := h.unique (of_lt hq hn hlt)
    exact hn
  · obtain ⟨rfl, rfl⟩ := h.unique (of_carry hn)
    obtain ⟨-, habove⟩ := scaled_bounds hq places
    have hnear := (abs_le.1 hn.near).1
    have hstep : q * 10 ^ (places - Int.log 10 q) =
        q * 10 ^ (places - (Int.log 10 q + 1)) * 10 := by
      rw [mul_assoc, ← zpow_add_one₀ (by norm_num)]
      congr 2
      ring
    rw [hstep, pow_succ] at habove hnear
    push_cast at habove hnear
    -- Below the power of ten by at most a tenth of one half.
    have hclose : |q * 10 ^ (places - (Int.log 10 q + 1)) - (10 ^ places : ℕ)| < 1 / 2 := by
      push_cast
      rw [abs_lt]
      constructor <;> linarith
    exact ⟨hclose.le, fun htie ↦ absurd htie hclose.ne⟩

end Significant

theorem significant_scientific (places : ℕ) {num den : ℕ} (hnum : 0 < num) (hden : 0 < den) :
    Significant places (num / den) (Writing.scientific places num den).1
      (Writing.scientific places num den).2 := by
  have hq : (0 : ℚ) < num / den := div_pos (Nat.cast_pos.2 hnum) (Nat.cast_pos.2 hden)
  have hround := nearestTo_scaledRound num hden (places - decimalExponent num den)
  rw [decimalExponent_eq hnum hden] at hround
  rw [Writing.scientific, decimalExponent_eq hnum hden]
  split
  · rename_i hlt
    exact .of_lt hq hround hlt
  · rename_i hge
    have hcarry := Nat.le_antisymm (Significant.rounded_bounds hq hround).2 (Nat.le_of_not_lt hge)
    rw [hcarry] at hround
    exact .of_carry hround

end Rollup
