import Mathlib.Algebra.Order.Field.Basic
import Mathlib.Data.Nat.Log
import Mathlib.Tactic.Linarith
import Mathlib.Tactic.Positivity
import Mathlib.Tactic.Ring
import Rollup.Proofs.Number.Exact

/-!
# Rounding to the nearest number

`NearestTo q n` says what rounding a fraction is to give: a whole number at a distance of at
most one half, and the even one if there are two.  There is one such number, and it grows with
the fraction (`NearestTo.mono`); `nearestEven` computes it (`nearestTo_nearestEven`).

Doubles are rounded by it to multiples of their spacing, which is larger for larger numbers.
Between two numbers with different spacings lies a power of two that is a multiple of both, and
neither number is rounded across it (`Binary64.roundUnits_mono`).  So the double next to an
integer grows with the integer, although different integers may have the same
(`Binary64.rank?_ofInt_mono`).
-/

namespace Rollup

/-! ## Whole numbers -/

/-- A whole number nearest to a fraction, the even one of two. -/
structure NearestTo (q : ℚ) (n : ℕ) : Prop where
  near : |q - n| ≤ 1 / 2
  even : |q - n| = 1 / 2 → n % 2 = 0

namespace NearestTo

variable {q r : ℚ} {m n : ℕ}

/-- Of two fractions the larger is not rounded to less. -/
theorem mono (hq : NearestTo q m) (hr : NearestTo r n) (hle : q ≤ r) : m ≤ n := by
  by_contra hlt
  have hsucc : (n : ℚ) + 1 ≤ m := by exact_mod_cast Nat.lt_of_not_le hlt
  have hbelow := (abs_le.1 hq.near).1
  have habove := (abs_le.1 hr.near).2
  -- Both stand in the middle between two neighbours, and not both of these are even.
  have hm : q - m = -(1 / 2) := by linarith
  have hn : r - n = 1 / 2 := by linarith
  have hnext : (m : ℚ) = (n + 1 : ℕ) := by
    push_cast
    linarith
  have hmeven := hq.even (by rw [hm, abs_neg, abs_of_pos one_half_pos])
  have hneven := hr.even (by rw [hn, abs_of_pos one_half_pos])
  rw [Nat.cast_inj] at hnext
  omega

theorem unique (hm : NearestTo q m) (hn : NearestTo q n) : m = n :=
  Nat.le_antisymm (hm.mono hn le_rfl) (hn.mono hm le_rfl)

theorem natCast (n : ℕ) : NearestTo n n where
  near := by
    rw [sub_self, abs_zero]
    exact one_half_pos.le
  even h := by
    rw [sub_self, abs_zero] at h
    exact absurd h one_half_pos.ne

theorem le_natCast (h : NearestTo q m) (hle : q ≤ n) : m ≤ n := h.mono (natCast n) hle

theorem natCast_le (h : NearestTo q m) (hle : n ≤ q) : n ≤ m := (natCast n).mono h hle

end NearestTo

theorem natCast_div_eq (num : ℕ) {den : ℕ} (hden : 0 < den) :
    (num : ℚ) / den = (num / den : ℕ) + (num % den : ℕ) / (den : ℚ) := by
  have hpos : (0 : ℚ) < den := Nat.cast_pos.2 hden
  have hsplit : (num : ℚ) = den * (num / den : ℕ) + (num % den : ℕ) := by
    exact_mod_cast (Nat.div_add_mod num den).symm
  rw [div_eq_iff hpos.ne', add_mul, div_mul_cancel₀ _ hpos.ne', mul_comm (_ : ℚ) (den : ℚ)]
  exact hsplit

/-- With at most one half more than a whole number. -/
theorem NearestTo.of_le_half {n : ℕ} {part : ℚ} (hnonneg : 0 ≤ part) (hle : part ≤ 1 / 2)
    (heven : part = 1 / 2 → n % 2 = 0) : NearestTo (n + part) n := by
  have habs : |(n : ℚ) + part - n| = part := by
    rw [add_sub_cancel_left, abs_of_nonneg hnonneg]
  exact ⟨habs.symm ▸ hle, habs.symm ▸ heven⟩

/-- With at least one half more than a whole number. -/
theorem NearestTo.of_half_le {n : ℕ} {part : ℚ} (hle : 1 / 2 ≤ part) (hlt : part < 1)
    (heven : part = 1 / 2 → (n + 1) % 2 = 0) : NearestTo (n + part) (n + 1 : ℕ) := by
  have habs : |(n : ℚ) + part - (n + 1 : ℕ)| = 1 - part := by
    have hneg : (n : ℚ) + part - (n + 1 : ℕ) = part - 1 := by
      push_cast
      ring
    rw [hneg, abs_of_neg (by linarith), neg_sub]
  constructor
  · rw [habs]
    linarith
  · intro htie
    rw [habs] at htie
    exact heven (by linarith)

theorem nearestTo_nearestEven (num : ℕ) {den : ℕ} (hden : 0 < den) :
    NearestTo (num / den) (nearestEven num den) := by
  have hpos : (0 : ℚ) < den := Nat.cast_pos.2 hden
  have hbelow : 2 * (num % den) ≤ den ↔ ((num % den : ℕ) : ℚ) / den ≤ 1 / 2 := by
    rw [div_le_iff₀ hpos, ← Nat.cast_le (α := ℚ), Nat.cast_mul, Nat.cast_ofNat]
    constructor <;> intro h <;> linarith
  have habove : den ≤ 2 * (num % den) ↔ 1 / 2 ≤ ((num % den : ℕ) : ℚ) / den := by
    rw [le_div_iff₀ hpos, ← Nat.cast_le (α := ℚ), Nat.cast_mul, Nat.cast_ofNat]
    constructor <;> intro h <;> linarith
  have hlt : ((num % den : ℕ) : ℚ) / den < 1 :=
    (div_lt_one hpos).2 (Nat.cast_lt.2 (Nat.mod_lt num hden))
  rw [natCast_div_eq num hden]
  unfold nearestEven
  dsimp only
  split
  · rename_i hdown
    simp only [Bool.or_eq_true, Bool.and_eq_true, decide_eq_true_eq] at hdown
    apply NearestTo.of_le_half (by positivity) (hbelow.1 (by omega))
    intro htie
    have hge := habove.2 htie.ge
    omega
  · rename_i hup
    simp only [Bool.or_eq_true, Bool.and_eq_true, decide_eq_true_eq] at hup
    apply NearestTo.of_half_le (habove.1 (by omega)) hlt
    intro htie
    have hle := hbelow.2 htie.le
    omega

theorem nearestEven_mono {num num' den : ℕ} (hden : 0 < den) (h : num ≤ num') :
    nearestEven num den ≤ nearestEven num' den := by
  apply (nearestTo_nearestEven num hden).mono (nearestTo_nearestEven num' hden)
  have hpos : (0 : ℚ) < den := Nat.cast_pos.2 hden
  rwa [div_le_div_iff_of_pos_right hpos, Nat.cast_le]

/-- What is at most a multiple is rounded to at most this multiple. -/
theorem nearestEven_le {num den k : ℕ} (hden : 0 < den) (h : num ≤ k * den) :
    nearestEven num den ≤ k := by
  apply (nearestTo_nearestEven num hden).le_natCast
  rw [div_le_iff₀ (Nat.cast_pos.2 hden)]
  exact_mod_cast h

/-- What is at least a multiple is rounded to at least this multiple. -/
theorem le_nearestEven {num den k : ℕ} (hden : 0 < den) (h : k * den ≤ num) :
    k ≤ nearestEven num den := by
  apply (nearestTo_nearestEven num hden).natCast_le
  rw [le_div_iff₀ (Nat.cast_pos.2 hden)]
  exact_mod_cast h

/-! ## Doubles -/

namespace Binary64

theorem spacing_eq (n : ℕ) : spacing n = 2 ^ (n.log2 - 52) := Nat.one_shiftLeft _

theorem spacing_pos (n : ℕ) : 0 < spacing n := by
  rw [spacing_eq]
  exact Nat.two_pow_pos _

/-- Rounding does not go beyond a multiple of the spacing. -/
theorem roundUnits_le {num den k : ℕ} (hden : 0 < den) (hk : spacing (num / den) ∣ k)
    (h : num ≤ k * den) : roundUnits num den ≤ k := by
  obtain ⟨times, rfl⟩ := hk
  have hstep := spacing_pos (num / den)
  rw [roundUnits, Nat.mul_comm _ times]
  apply Nat.mul_le_mul_right
  apply nearestEven_le (Nat.mul_pos hden hstep)
  calc num ≤ spacing (num / den) * times * den := h
    _ = times * (den * spacing (num / den)) := by ring

theorem le_roundUnits {num den k : ℕ} (hden : 0 < den) (hk : spacing (num / den) ∣ k)
    (h : k * den ≤ num) : k ≤ roundUnits num den := by
  obtain ⟨times, rfl⟩ := hk
  have hstep := spacing_pos (num / den)
  rw [roundUnits, Nat.mul_comm _ times]
  apply Nat.mul_le_mul_right
  apply le_nearestEven (Nat.mul_pos hden hstep)
  calc times * (den * spacing (num / den)) = spacing (num / den) * times * den := by ring
    _ ≤ num := h

/-- Of two quotients the larger is not rounded to less. -/
theorem roundUnits_mono {num num' den : ℕ} (hden : 0 < den) (h : num ≤ num') :
    roundUnits num den ≤ roundUnits num' den := by
  have hquotient : num / den ≤ num' / den := Nat.div_le_div_right h
  have hlog : (num / den).log2 ≤ (num' / den).log2 := by
    rw [Nat.log2_eq_log_two, Nat.log2_eq_log_two]
    exact Nat.log_mono_right hquotient
  rcases Nat.eq_or_lt_of_le hlog with heq | hlt
  · have hspacing : spacing (num / den) = spacing (num' / den) := by
      rw [spacing_eq, spacing_eq, heq]
    rw [roundUnits, roundUnits, hspacing]
    exact Nat.mul_le_mul_right _ (nearestEven_mono (Nat.mul_pos hden (spacing_pos _)) h)
  · -- The largest power of two up to the larger quotient lies between the two.
    have hne : num' / den ≠ 0 := by
      rintro hzero
      rw [hzero] at hlt
      exact absurd hlt (Nat.not_lt_zero _)
    have hbelow : num / den < 2 ^ (num' / den).log2 :=
      calc num / den < 2 ^ ((num / den).log2 + 1) := Nat.lt_log2_self
        _ ≤ 2 ^ (num' / den).log2 := Nat.pow_le_pow_right (by decide) hlt
    have habove : 2 ^ (num' / den).log2 ≤ num' / den := Nat.log2_self_le hne
    have hsmall : num ≤ 2 ^ (num' / den).log2 * den :=
      (Nat.div_lt_iff_lt_mul hden).1 hbelow |>.le
    have hlarge : 2 ^ (num' / den).log2 * den ≤ num' := (Nat.le_div_iff_mul_le hden).1 habove
    apply (roundUnits_le hden _ hsmall).trans (le_roundUnits hden _ hlarge)
    · rw [spacing_eq]
      exact Nat.pow_dvd_pow 2 (by omega)
    · rw [spacing_eq]
      exact Nat.pow_dvd_pow 2 (by omega)

/-- A rounded number stands where its units do, or with the infinities. -/
theorem rank?_rounded (negative : Bool) (num den : ℕ) :
    (rounded negative num den).rank? = some (if negative
      then -((min (roundUnits num den) limit : ℕ) : ℤ)
      else (min (roundUnits num den) limit : ℕ)) := by
  unfold rounded
  dsimp only
  split
  · rename_i hlt
    rw [Nat.min_eq_left hlt.le]
    rfl
  · rename_i hge
    rw [Nat.min_eq_right (Nat.le_of_not_lt hge)]
    rfl

theorem rank?_ofInt (i : ℤ) :
    (ofInt i).rank? = some (if i < 0
      then -((min (roundUnits (i.natAbs * one) 1) limit : ℕ) : ℤ)
      else (min (roundUnits (i.natAbs * one) 1) limit : ℕ)) := by
  rw [ofInt, ofQuotient, rank?_rounded]
  simp only [decide_eq_true_eq]

/-- The double next to an integer grows with the integer. -/
theorem rank?_ofInt_mono {i j : ℤ} (h : i ≤ j) :
    ∃ x y, (ofInt i).rank? = some x ∧ (ofInt j).rank? = some y ∧ x ≤ y := by
  have hmagnitude {m n : ℕ} (hle : m ≤ n) :
      min (roundUnits (m * one) 1) limit ≤ min (roundUnits (n * one) 1) limit :=
    min_le_min_right _ (roundUnits_mono Nat.one_pos (Nat.mul_le_mul_right _ hle))
  refine ⟨_, _, rank?_ofInt i, rank?_ofInt j, ?_⟩
  by_cases hj : j < 0
  · have hi : i < 0 := lt_of_le_of_lt h hj
    have hle := hmagnitude (show j.natAbs ≤ i.natAbs by omega)
    rw [if_pos hi, if_pos hj]
    omega
  · by_cases hi : i < 0
    · rw [if_pos hi, if_neg hj]
      omega
    · have hle := hmagnitude (show i.natAbs ≤ j.natAbs by omega)
      rw [if_neg hi, if_neg hj]
      omega

end Binary64

end Rollup
