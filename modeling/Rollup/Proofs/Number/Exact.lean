import Mathlib.Algebra.Order.Field.Rat
import Mathlib.Order.WithBotTop
import Mathlib.Tactic.NormNum
import Rollup.Number.Numeric

/-!
# Comparisons that are exact

Two integers are compared exactly, two doubles are, and an integer is compared with a double
as the double next to it.  So comparing is exact among numbers of one of two kinds: integers,
and numbers that are doubles without a rounding (`Numeric.faithful_ints`,
`Numeric.faithful_doubles`).  Integers are doubles up to 2⁵³ (`Binary64.ofInt_eq`).

`Numeric.value?` is the exact value of a number, as a fraction or one of the two infinities.
Among doubles it orders them as `Binary64.rank?` does, since every finite double stands below
`Binary64.limit` (`Binary64.lt_iff`).
-/

namespace Rollup

namespace Binary64

/-! ## Exact values -/

/-- The exact value of a double, if it is a number. -/
def value? : Binary64 → Option (WithBotTop ℚ)
  | .nan => none
  | .infinite negative => some (if negative then ⊥ else ⊤)
  | .finite negative units =>
    some (((if negative then -(units : Int) else units : Int) : ℚ) / (one : ℚ) : ℚ)

theorem one_pos : (0 : ℚ) < (one : ℚ) := by
  rw [Nat.cast_pos, one, Nat.one_shiftLeft]
  exact Nat.two_pow_pos 1074

theorem limit_pos : (0 : Int) < (limit : Int) := by
  rw [Int.natCast_pos, limit, Nat.one_shiftLeft]
  exact Nat.two_pow_pos 2098

/-- A finite double stands between the infinities. -/
theorem finite_mem_range (negative : Bool) {units : Nat} (h : units < limit) :
    -(limit : Int) < (if negative then -(units : Int) else units) ∧
      (if negative then -(units : Int) else units) < (limit : Int) := by
  cases negative <;> simp only [if_true, if_false, Bool.false_eq_true] <;> omega

/-- Doubles are compared exactly. -/
theorem lt_iff {a b : Binary64} {v w : WithBotTop ℚ} (ha : InRange a) (hb : InRange b)
    (hv : a.value? = some v) (hw : b.value? = some w) : a.lt b = true ↔ v < w := by
  have hpos := limit_pos
  cases a with
  | nan => cases hv
  | infinite m =>
    obtain rfl := Option.some.inj hv
    cases b with
    | nan => cases hw
    | infinite n =>
      obtain rfl := Option.some.inj hw
      cases m <;> cases n <;> simp [lt, rank?]
      omega
    | finite n units' =>
      obtain rfl := Option.some.inj hw
      obtain ⟨hlow, hhigh⟩ := finite_mem_range n hb
      cases m with
      | false => exact iff_of_false (mt of_decide_eq_true (not_lt.2 hhigh.le)) not_top_lt
      | true => exact iff_of_true (decide_eq_true hlow) (WithBot.bot_lt_coe _)
  | finite m units =>
    obtain rfl := Option.some.inj hv
    obtain ⟨hlow, hhigh⟩ := finite_mem_range m ha
    cases b with
    | nan => cases hw
    | infinite n =>
      obtain rfl := Option.some.inj hw
      cases n with
      | false =>
        exact iff_of_true (decide_eq_true hhigh) (WithBot.coe_lt_coe.2 (WithTop.coe_lt_top _))
      | true => exact iff_of_false (mt of_decide_eq_true (not_lt.2 hlow.le)) not_lt_bot
    | finite n units' =>
      obtain rfl := Option.some.inj hw
      rw [WithBotTop.coe_lt_coe, div_lt_div_iff_of_pos_right one_pos, Int.cast_lt]
      exact decide_eq_true_iff

/-! ## Integers -/

theorem log2_mul_two_pow {n : Nat} (h : n ≠ 0) (k : Nat) : (n * 2 ^ k).log2 = n.log2 + k := by
  have hne : n * 2 ^ k ≠ 0 := Nat.mul_ne_zero h (Nat.two_pow_pos k).ne'
  rw [Nat.log2_eq_iff hne]
  constructor
  · rw [Nat.pow_add]
    exact Nat.mul_le_mul_right _ (Nat.log2_self_le h)
  · rw [Nat.add_right_comm, Nat.pow_add]
    exact Nat.mul_lt_mul_of_pos_right Nat.lt_log2_self (Nat.two_pow_pos k)

/-- Doubles around an integer of 53 bits are at a distance that divides it. -/
theorem spacing_dvd {n k : Nat} (h : n ≤ 2 ^ 53) (hk : 0 < k) :
    spacing (n * 1 <<< k) ∣ n * 1 <<< k := by
  rw [spacing, Nat.one_shiftLeft, Nat.one_shiftLeft]
  rcases Nat.eq_zero_or_pos n with rfl | hpos
  · rw [Nat.zero_mul]
    exact Nat.dvd_zero _
  · rw [log2_mul_two_pow hpos.ne']
    rcases Nat.lt_or_eq_of_le h with hlt | rfl
    · have hle : n.log2 < 53 := (Nat.log2_lt hpos.ne').2 hlt
      exact (Nat.pow_dvd_pow 2 (by omega)).trans (Nat.dvd_mul_left _ _)
    · rw [Nat.log2_two_pow, ← Nat.pow_add]
      exact Nat.pow_dvd_pow 2 (by omega)

theorem mul_shiftLeft_lt {n k m : Nat} (h : n ≤ 2 ^ 53) (hk : 53 + k < m) :
    n * 1 <<< k < 1 <<< m := by
  rw [Nat.one_shiftLeft, Nat.one_shiftLeft]
  calc n * 2 ^ k ≤ 2 ^ 53 * 2 ^ k := Nat.mul_le_mul_right _ h
    _ = 2 ^ (53 + k) := (Nat.pow_add 2 53 k).symm
    _ < 2 ^ m := Nat.pow_lt_pow_right (by decide) hk

theorem nearestEven_of_dvd {num den : Nat} (hpos : 0 < den) (h : den ∣ num) :
    nearestEven num den = num / den := by
  unfold nearestEven
  simp only [Nat.mod_eq_zero_of_dvd h]
  rw [if_pos (by simp [hpos])]

/-- An integer of 53 bits is not rounded. -/
theorem ofInt_eq {i : Int} (h : i.natAbs ≤ 2 ^ 53) :
    ofInt i = .finite (i < 0) (i.natAbs * one) := by
  have hdvd : spacing (i.natAbs * one) ∣ i.natAbs * one := spacing_dvd h (by decide)
  have hspacing : 0 < spacing (i.natAbs * one) := by
    rw [spacing, Nat.one_shiftLeft]
    exact Nat.two_pow_pos _
  have hround : roundUnits (i.natAbs * one) 1 = i.natAbs * one := by
    rw [roundUnits, Nat.div_one, Nat.one_mul, nearestEven_of_dvd hspacing hdvd]
    exact Nat.div_mul_cancel hdvd
  have hlt : i.natAbs * one < limit := mul_shiftLeft_lt h (by decide)
  rw [ofInt, ofQuotient, rounded, hround, if_pos hlt]

/-- An integer of 53 bits is a double. -/
theorem value?_ofInt {i : Int} (h : i.natAbs ≤ 2 ^ 53) :
    (ofInt i).value? = some ((i : ℚ) : WithBotTop ℚ) := by
  have hsigned : (if decide (i < 0) = true then -((i.natAbs * one : Nat) : Int)
      else (i.natAbs * one : Nat)) = i * one := by
    rw [Nat.cast_mul]
    by_cases hneg : i < 0
    · rw [if_pos (decide_eq_true hneg), ← Int.neg_mul, Int.ofNat_natAbs_of_nonpos hneg.le,
        Int.neg_neg]
    · rw [if_neg (mt of_decide_eq_true hneg), Int.natAbs_of_nonneg (Int.not_lt.1 hneg)]
  rw [ofInt_eq h, value?, hsigned, Int.cast_mul, Int.cast_natCast,
    mul_div_cancel_right₀ _ one_pos.ne']

end Binary64

namespace Numeric

/-! ## Numbers -/

/-- The exact value of a number. -/
def value? : Numeric → Option (WithBotTop ℚ)
  | .unset => none
  | .int i => some (i : ℚ)
  | .float d => d.value?

/-- The number is an integer. -/
def IsInt (x : Numeric) : Prop := ∃ i, x = .int i

/-- The number is a double, or an integer that is one without a rounding. -/
inductive IsDouble : Numeric → Prop
  | int {i : Int} (h : i.natAbs ≤ 2 ^ 53) : IsDouble (.int i)
  | float {d : Binary64} (hnumber : d ≠ .nan) (h : d.InRange) : IsDouble (.float d)

/-- A field spells an integer, or a double that was read from it. -/
theorem makeBy_eq_ok {quick : Bytes → Option Int} {double : Bytes → Option Binary64} {field : Bytes}
    {x : Numeric} (h : makeBy quick double field = .ok x) :
    (∃ i, x = .int i) ∨ ∃ d, x = .float d ∧ double field = some d := by
  unfold makeBy at h
  split at h
  · cases h
    exact .inl ⟨_, rfl⟩
  · split at h
    · rename_i d hd
      cases h
      exact .inr ⟨d, rfl, hd⟩
    · cases h

/-- A field that spells no number is named in the error. -/
theorem makeBy_eq_error {quick : Bytes → Option Int} {double : Bytes → Option Binary64}
    {field : Bytes} {e : Error} (h : makeBy quick double field = .error e) :
    e = .notANumber field := by
  unfold makeBy at h
  split at h
  · cases h
  · split at h
    · cases h
    · exact (Except.error.inj h).symm

theorem read?_eq_some_iff [NumberReader] {field : Bytes} {x : Numeric} :
    read? field = some x ↔ make field = .ok x := by
  rw [read?]
  cases make field with
  | ok y => exact ⟨fun h ↦ congrArg _ (Option.some.inj h), fun h ↦ congrArg _ (Except.ok.inj h)⟩
  | error e => exact ⟨nofun, nofun⟩

/-- A field that spells a double spells one in range. -/
theorem inRange_of_make [NumberReader] {field : Bytes} {d : Binary64}
    (h : make field = .ok (.float d)) : d.InRange := by
  rcases makeBy_eq_ok h with ⟨i, hi⟩ | ⟨e, he, hread⟩
  · cases hi
  · cases he
    exact NumberReader.inRange hread

/-- A value is strictly nearer to the goal than another. -/
def Beats : Goal → WithBotTop ℚ → WithBotTop ℚ → Prop
  | .lowest, v, w => v < w
  | .highest, v, w => w < v

/-- What improves on a number among those of a kind is of that kind, and has a value nearer to
the goal; and everything with such a value improves. -/
structure Faithful (kind : Numeric → Prop) : Prop where
  value : ∀ {x}, kind x → ∃ v, x.value? = some v
  improves : ∀ goal {x y v w}, kind x → kind y → x.value? = some v → y.value? = some w →
    (Beats goal w v ∧ ∃ z, improvement? goal x y = some z ∧ kind z ∧ z.value? = some w) ∨
      ¬ Beats goal w v ∧ improvement? goal x y = none

theorem beatsInt_iff {goal : Goal} {i j : Int} :
    beatsInt goal j i = true ↔ Beats goal (j : ℚ) (i : ℚ) := by
  cases goal <;> rw [beatsInt, decide_eq_true_iff, Beats, WithBotTop.coe_lt_coe, Int.cast_lt]

theorem faithful_ints : Faithful IsInt where
  value := by
    rintro _ ⟨i, rfl⟩
    exact ⟨_, rfl⟩
  improves := by
    rintro goal _ _ _ _ ⟨i, rfl⟩ ⟨j, rfl⟩ ⟨⟩ ⟨⟩
    by_cases h : beatsInt goal j i = true
    · exact .inl ⟨beatsInt_iff.1 h, .int j, if_pos h, ⟨j, rfl⟩, rfl⟩
    · exact .inr ⟨mt beatsInt_iff.2 h, if_neg h⟩

/-- As a double it has the same value. -/
theorem IsDouble.toBinary64 {x : Numeric} (h : x.IsDouble) :
    x.toBinary64.InRange ∧ x.toBinary64 ≠ .nan ∧ x.toBinary64.value? = x.value? := by
  cases h with
  | @int i h =>
    refine ⟨Binary64.inRange_rounded _ _ _, ?_, Binary64.value?_ofInt h⟩
    change Binary64.ofInt i ≠ .nan
    rw [Binary64.ofInt_eq h]
    exact Binary64.noConfusion
  | float hnumber h => exact ⟨h, hnumber, rfl⟩

/-- Among these numbers, one that is compared as a double is compared exactly. -/
theorem IsDouble.beatsDouble_iff (goal : Goal) {x y : Numeric} {v w : WithBotTop ℚ}
    (hx : x.IsDouble) (hy : y.IsDouble) (hv : x.value? = some v) (hw : y.value? = some w) :
    beatsDouble goal y.toBinary64 x.toBinary64 = true ↔ Beats goal w v := by
  obtain ⟨hxRange, -, hxValue⟩ := hx.toBinary64
  obtain ⟨hyRange, -, hyValue⟩ := hy.toBinary64
  cases goal with
  | lowest => exact Binary64.lt_iff hyRange hxRange (hyValue.trans hw) (hxValue.trans hv)
  | highest => exact Binary64.lt_iff hxRange hyRange (hxValue.trans hv) (hyValue.trans hw)

theorem IsDouble.exists_value {x : Numeric} (h : x.IsDouble) : ∃ v, x.value? = some v := by
  cases h with
  | int h => exact ⟨_, rfl⟩
  | @float d hnumber h =>
    cases d with
    | nan => exact absurd rfl hnumber
    | infinite negative => exact ⟨_, rfl⟩
    | finite negative units => exact ⟨_, rfl⟩

theorem faithful_doubles : Faithful IsDouble where
  value := IsDouble.exists_value
  improves := by
    intro goal x y v w hx hy hv hw
    have hbeats := hx.beatsDouble_iff goal hy hv hw
    obtain ⟨hrange, hnumber, hvalue⟩ := hy.toBinary64
    -- Unless both are integers, the number that is kept is a double.
    have hmixed (h : improvement? goal x y =
        if beatsDouble goal y.toBinary64 x.toBinary64 then some (.float y.toBinary64) else none) :
        (Beats goal w v ∧ ∃ z, improvement? goal x y = some z ∧ IsDouble z ∧ z.value? = some w) ∨
          ¬ Beats goal w v ∧ improvement? goal x y = none := by
      rw [h]
      by_cases hbetter : beatsDouble goal y.toBinary64 x.toBinary64 = true
      · exact .inl ⟨hbeats.1 hbetter, _, if_pos hbetter, .float hnumber hrange, hvalue.trans hw⟩
      · exact .inr ⟨mt hbeats.2 hbetter, if_neg hbetter⟩
    cases hx with
    | @int i hi =>
      cases hy with
      | @int j hj =>
        cases hv
        cases hw
        by_cases h : beatsInt goal j i = true
        · exact .inl ⟨beatsInt_iff.1 h, .int j, if_pos h, .int hj, rfl⟩
        · exact .inr ⟨mt beatsInt_iff.2 h, if_neg h⟩
      | float => exact hmixed rfl
    | float =>
      cases hy with
      | int => exact hmixed rfl
      | float => exact hmixed rfl

/-! ## Values that are nearest to the goal -/

section Beats

variable {goal : Goal} {u v w : WithBotTop ℚ}

theorem Beats.irrefl (goal : Goal) (v : WithBotTop ℚ) : ¬ Beats goal v v := by
  cases goal <;> exact lt_irrefl v

/-- What is not beaten is not beaten by anything worse than what beats it. -/
theorem Beats.of_unbeaten (h : Beats goal v u) (hw : ¬ Beats goal w u) : Beats goal v w := by
  cases goal with
  | lowest => exact lt_of_lt_of_le h (not_lt.1 hw)
  | highest => exact lt_of_le_of_lt (not_lt.1 hw) h

theorem Beats.asymm (h : Beats goal v w) : ¬ Beats goal w v := by
  cases goal <;> exact not_lt.2 h.le

end Beats

end Numeric

end Rollup
