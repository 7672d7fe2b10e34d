import Rollup.Number.Numeric
import Rollup.Proofs.Number.Digits
import Rollup.Proofs.Number.Significant

/-!
# How doubles are printed

A text without an exponent is a whole number, or a whole number, a point and digits of which the
last is no zero (`Writing.Plain`).  In front of an exponent stands such a text with one digit in
front of the point (`Writing.Scientific`).  Both relations give the exact value of the text.

Trimming drops zeros behind a point only, and so keeps the value
(`Writing.plain_trimFraction_fixed`).  Whether there is to be an exponent is decided by digits
that have been rounded already, while a text without one comes from rounding the number again;
that both roundings give the same digits is `Significant.nearestTo`.
-/

namespace Rollup

namespace Writing

open Digits (value)

/-! ## Texts and their values -/

/-- A number without an exponent: whole, or with digits behind a point that do not end in a
zero. -/
inductive Plain : List Char → ℚ → Prop
  | whole (n : ℕ) : Plain (Nat.toDigits 10 n) n
  | point (n : ℕ) {fraction : List Char} (hdigits : Digits fraction)
    (hlast : fraction.getLast? ≠ some '0') :
    Plain (Nat.toDigits 10 n ++ '.' :: fraction) (n + value fraction / 10 ^ fraction.length)

/-- A sign and at least two digits. -/
inductive Exponent : List Char → ℤ → Prop
  | plus {digits : List Char} (hdigits : Digits digits) (hlength : 2 ≤ digits.length) :
    Exponent ('+' :: digits) (value digits)
  | minus {digits : List Char} (hdigits : Digits digits) (hlength : 2 ≤ digits.length) :
    Exponent ('-' :: digits) (-(value digits : ℤ))

/-- A number of one digit in front of the point, and an exponent. -/
inductive Scientific : List Char → ℚ → Prop
  | mk {mantissa exponent : List Char} {m : ℚ} {e : ℤ} (hmantissa : Plain mantissa m)
    (hlow : 1 ≤ m) (hhigh : m < 10) (hexponent : Exponent exponent e) :
    Scientific (mantissa ++ 'e' :: exponent) (m * 10 ^ e)

theorem Plain.not_mem {text : List Char} {v : ℚ} (h : Plain text v) : 'e' ∉ text := by
  cases h with
  | whole n => exact (Digits.toDigits n).not_mem rfl
  | point n hdigits hlast =>
    rw [List.mem_append, List.mem_cons, not_or, not_or]
    exact ⟨(Digits.toDigits n).not_mem rfl, by decide, hdigits.not_mem rfl⟩

theorem Scientific.mem {text : List Char} {v : ℚ} (h : Scientific text v) : 'e' ∈ text := by
  cases h with
  | mk hmantissa hlow hhigh hexponent => exact List.mem_append_right _ List.mem_cons_self

/-! ## Padding -/

theorem padded_one (n : ℕ) : padded 1 n = Nat.toDigits 10 n := by
  have hlength : 1 - (Nat.toDigits 10 n).length = 0 :=
    Nat.sub_eq_zero_of_le (List.length_pos_of_ne_nil Nat.toDigits_ne_nil)
  rw [padded, hlength]
  rfl

/-- The last digit. -/
theorem padded_succ {size : ℕ} (hsize : 0 < size) (n : ℕ) :
    padded (size + 1) n = padded size (n / 10) ++ [(n % 10).digitChar] := by
  rw [padded, padded, Nat.toDigits_eq_if (by decide)]
  split
  · rename_i hlt
    obtain ⟨k, rfl⟩ := Nat.exists_eq_succ_of_ne_zero hsize.ne'
    rw [Nat.div_eq_of_lt hlt, Nat.mod_eq_of_lt hlt]
    change List.replicate (k + 1) '0' ++ _ = List.replicate k '0' ++ ['0'] ++ _
    rw [List.replicate_succ']
  · rw [List.length_append, List.length_singleton, Nat.add_sub_add_right, List.append_assoc]

/-- The digits behind the point make up what the whole part leaves. -/
theorem exists_padded (places n : ℕ) : ∃ fraction,
    padded (places + 1) n = Nat.toDigits 10 (n / 10 ^ places) ++ fraction ∧
      fraction.length = places ∧ (∀ c ∈ fraction, c.isDigit = true) ∧
      value fraction = n % 10 ^ places := by
  induction places generalizing n with
  | zero =>
    refine ⟨[], ?_, rfl, nofun, (Nat.mod_one n).symm⟩
    rw [padded_one, Nat.pow_zero, Nat.div_one, List.append_nil]
  | succ places ih =>
    obtain ⟨fraction, hpadded, hlength, hdigit, hvalue⟩ := ih (n / 10)
    have hlast : n % 10 < 10 := Nat.mod_lt n (by decide)
    refine ⟨fraction ++ [(n % 10).digitChar], ?_, ?_, ?_, ?_⟩
    · rw [padded_succ (Nat.succ_pos places), hpadded, Nat.div_div_eq_div_mul, List.append_assoc,
        ← Nat.pow_succ']
    · rw [List.length_append, hlength]
      rfl
    · rw [List.forall_mem_append, List.forall_mem_singleton, Nat.isDigit_digitChar]
      exact ⟨hdigit, decide_eq_true hlast⟩
    · rw [Digits.value_append, hvalue, ← Nat.toDigits_of_lt_base hlast, Digits.value_toDigits,
        Nat.toDigits_of_lt_base hlast, Nat.pow_succ', Nat.mod_mul]
      simp only [List.length_singleton]
      omega

theorem fixed_zero (n : ℕ) : fixed 0 n = Nat.toDigits 10 n := padded_one n

theorem exists_fixed {places : ℕ} (hplaces : 0 < places) (n : ℕ) : ∃ fraction,
    fixed places n = Nat.toDigits 10 (n / 10 ^ places) ++ '.' :: fraction ∧
      fraction.length = places ∧ (∀ c ∈ fraction, c.isDigit = true) ∧
      value fraction = n % 10 ^ places := by
  obtain ⟨fraction, hpadded, hlength, hdigit, hvalue⟩ := exists_padded places n
  refine ⟨fraction, ?_, hlength, hdigit, hvalue⟩
  have hwhole : (padded (places + 1) n).length - places =
      (Nat.toDigits 10 (n / 10 ^ places)).length := by
    rw [hpadded, List.length_append, hlength, Nat.add_sub_cancel]
  rw [fixed, hwhole, hpadded, if_neg hplaces.ne', List.take_left, List.drop_left]

/-! ## Trimming -/

theorem trimEnd_append_replicate {c : Char} {text : List Char} (h : text.getLast? ≠ some c)
    (n : ℕ) : trimEnd c (text ++ List.replicate n c) = text := by
  rw [trimEnd, List.reverse_append, List.reverse_replicate, List.reverse_eq_iff]
  induction n with
  | zero =>
    rw [← List.head?_reverse] at h
    cases hreverse : text.reverse with
    | nil => rfl
    | cons d rest =>
      rw [hreverse] at h
      exact List.dropWhile_cons_of_neg fun hd ↦ h (congrArg some (of_decide_eq_true hd))
  | succ n ih =>
    exact (List.dropWhile_cons_of_pos (p := fun d ↦ decide (d = c)) (decide_eq_true rfl)).trans ih

theorem trimEnd_eq {c : Char} {text : List Char} (h : text.getLast? ≠ some c) :
    trimEnd c text = text := by
  have htrim := trimEnd_append_replicate h 0
  rwa [List.replicate_zero, List.append_nil] at htrim

/-- Zeros at the end, and what is in front of them. -/
theorem exists_append_replicate (c : Char) (text : List Char) :
    ∃ kept n, text = kept ++ List.replicate n c ∧ kept.getLast? ≠ some c := by
  induction text using List.reverseRecOn with
  | nil => exact ⟨[], 0, rfl, nofun⟩
  | append_singleton text d ih =>
    by_cases hd : d = c
    · obtain ⟨kept, n, rfl, hkept⟩ := ih
      refine ⟨kept, n + 1, ?_, hkept⟩
      rw [List.replicate_succ', List.append_assoc, hd]
    · refine ⟨text ++ [d], 0, (List.append_nil _).symm, ?_⟩
      rwa [List.getLast?_concat, Ne, Option.some.injEq]

theorem trimFraction_digits {digits : List Char} (h : Digits digits) :
    trimFraction digits = digits := by
  rw [trimFraction, if_neg]
  rw [List.elem_iff]
  exact h.not_mem rfl

/-- If only zeros stand behind the point, it goes with them. -/
theorem trimFraction_zeros {whole : List Char} (h : Digits whole) (n : ℕ) :
    trimFraction (whole ++ '.' :: List.replicate n '0') = whole := by
  have hzeros : trimEnd '0' (whole ++ '.' :: List.replicate n '0') = whole ++ ['.'] := by
    rw [List.append_cons, trimEnd_append_replicate]
    rw [List.getLast?_concat]
    decide
  rw [trimFraction, if_pos (List.elem_iff.2 (by simp)), hzeros]
  exact trimEnd_append_replicate (h.getLast?_ne rfl) 1

theorem trimFraction_kept {whole kept : List Char} (hkept : Digits kept)
    (hlast : kept.getLast? ≠ some '0') (n : ℕ) :
    trimFraction (whole ++ '.' :: (kept ++ List.replicate n '0')) = whole ++ '.' :: kept := by
  have hend : (whole ++ '.' :: kept).getLast? = kept.getLast? := by
    rw [List.append_cons, List.getLast?_append_of_ne_nil _ hkept.ne_nil]
  have hzeros : trimEnd '0' (whole ++ '.' :: (kept ++ List.replicate n '0')) =
      whole ++ '.' :: kept := by
    rw [← List.cons_append, ← List.append_assoc, trimEnd_append_replicate]
    rwa [hend]
  rw [trimFraction, if_pos (List.elem_iff.2 (by simp)), hzeros]
  apply trimEnd_eq
  rw [hend]
  exact hkept.getLast?_ne rfl

theorem natCast_div_pow (n places : ℕ) : (n : ℚ) / 10 ^ places =
    (n / 10 ^ places : ℕ) + ((n % 10 ^ places : ℕ) : ℚ) / 10 ^ places := by
  exact_mod_cast natCast_div_eq n (Nat.pow_pos (by decide : 0 < 10))

/-- Trimming leaves the value as it is. -/
theorem plain_trimFraction_fixed (places n : ℕ) :
    Plain (trimFraction (fixed places n)) (n / 10 ^ places) := by
  obtain rfl | hplaces := Nat.eq_zero_or_pos places
  · rw [fixed_zero, trimFraction_digits (Digits.toDigits n), pow_zero, div_one]
    exact .whole n
  · obtain ⟨fraction, hfixed, hlength, hdigit, hvalue⟩ := exists_fixed hplaces n
    rw [hfixed, natCast_div_pow, ← hvalue, ← hlength]
    obtain ⟨kept, zeros, rfl, hlast⟩ := exists_append_replicate '0' fraction
    have hkept : (value (kept ++ List.replicate zeros '0') : ℚ) /
        10 ^ (kept ++ List.replicate zeros '0').length = value kept / 10 ^ kept.length := by
      rw [Digits.value_append, Digits.value_replicate_zero, List.length_append,
        List.length_replicate, pow_add]
      push_cast
      rw [add_zero, mul_div_mul_right _ _ (by positivity)]
    rw [hkept]
    obtain rfl | hne := eq_or_ne kept []
    · rw [List.nil_append, trimFraction_zeros (Digits.toDigits _)]
      have hzero : (value [] : ℚ) / 10 ^ ([] : List Char).length = 0 := by
        rw [show value [] = 0 from rfl, Nat.cast_zero, zero_div]
      rw [hzero, add_zero]
      exact .whole _
    · have hdigits : Digits kept := ⟨hne, fun c hc ↦ hdigit c (List.mem_append_left _ hc)⟩
      rw [trimFraction_kept hdigits hlast]
      exact .point _ hdigits hlast

/-! ## Exponents -/

theorem digits_padded (size n : ℕ) : Digits (padded size n) where
  ne_nil h := Nat.toDigits_ne_nil (List.append_eq_nil_iff.1 h).2
  digit c hc := by
    obtain hzero | hdigit := List.mem_append.1 hc
    · rw [List.eq_of_mem_replicate hzero]
      rfl
    · exact (Digits.toDigits n).digit c hdigit

theorem value_padded (size n : ℕ) : value (padded size n) = n := by
  rw [padded, Digits.value_append, Digits.value_replicate_zero, Nat.zero_mul, Nat.zero_add,
    Digits.value_toDigits]

theorem le_length_padded (size n : ℕ) : size ≤ (padded size n).length := by
  rw [padded, List.length_append, List.length_replicate]
  omega

theorem exists_exponentPart (e : ℤ) : ∃ text, exponentPart e = 'e' :: text ∧ Exponent text e := by
  have hdigits := digits_padded 2 e.natAbs
  have hlength := le_length_padded 2 e.natAbs
  have hvalue := value_padded 2 e.natAbs
  refine ⟨_, rfl, ?_⟩
  split
  · have he : -(value (padded 2 e.natAbs) : ℤ) = e := by omega
    have hminus := Exponent.minus hdigits hlength
    rwa [he] at hminus
  · have he : (value (padded 2 e.natAbs) : ℤ) = e := by omega
    have hplus := Exponent.plus hdigits hlength
    rwa [he] at hplus

/-! ## Doubles -/

variable {places num den digits : ℕ} {exponent : ℤ}

/-- With an exponent: the digits stand behind the first of them, and the exponent is its place. -/
theorem scientific_of_significant {q : ℚ} (h : Significant places q digits exponent) :
    Scientific (trimFraction (fixed places digits) ++ exponentPart exponent)
      (digits * 10 ^ (exponent - places)) := by
  obtain ⟨text, htext, hexponent⟩ := exists_exponentPart exponent
  have hpos : (0 : ℚ) < 10 ^ places := by positivity
  have hlow : (1 : ℚ) ≤ digits / 10 ^ places := by
    rw [one_le_div hpos]
    exact_mod_cast h.low
  have hhigh : (digits : ℚ) / 10 ^ places < 10 := by
    rw [div_lt_iff₀ hpos, ← pow_succ']
    exact_mod_cast h.high
  have hvalue : (digits : ℚ) * 10 ^ (exponent - places) = digits / 10 ^ places * 10 ^ exponent := by
    rw [zpow_sub₀ (by norm_num), zpow_natCast]
    ring
  rw [htext, hvalue]
  exact .mk (plain_trimFraction_fixed places digits) hlow hhigh hexponent

/-- Without an exponent the number is rounded again, and to the same digits. -/
theorem nearestEven_of_significant (hnum : 0 < num) (hden : 0 < den)
    (h : Significant places (num / den) digits exponent) (hle : exponent ≤ places) :
    nearestEven (num * 10 ^ (places - exponent).toNat) den = digits := by
  have hq : (0 : ℚ) < num / den := div_pos (Nat.cast_pos.2 hnum) (Nat.cast_pos.2 hden)
  have hagain := nearestTo_nearestEven (num * 10 ^ (places - exponent).toNat) hden
  apply hagain.unique
  obtain ⟨k, hk⟩ := Int.eq_ofNat_of_zero_le (sub_nonneg.2 hle)
  have hscaled : ((num * 10 ^ k : ℕ) : ℚ) / den = num / den * 10 ^ (k : ℤ) := by
    rw [zpow_natCast]
    push_cast
    ring
  have hnearest := h.nearestTo hq
  rw [hk] at hnearest ⊢
  rwa [Int.toNat_natCast, hscaled]

theorem plain_of_significant (hnum : 0 < num) (hden : 0 < den)
    (h : Significant places (num / den) digits exponent) (hle : exponent ≤ places) :
    Plain (trimFraction (fixed (places - exponent).toNat
      (nearestEven (num * 10 ^ (places - exponent).toNat) den)))
      (digits * 10 ^ (exponent - places)) := by
  rw [nearestEven_of_significant hnum hden h hle]
  obtain ⟨k, hk⟩ := Int.eq_ofNat_of_zero_le (sub_nonneg.2 hle)
  have hvalue : (digits : ℚ) * 10 ^ (exponent - places) = digits / 10 ^ k := by
    rw [← neg_sub, hk, zpow_neg, zpow_natCast, div_eq_mul_inv]
  rw [hk, hvalue]
  exact plain_trimFraction_fixed k digits

/-- The form that the exponent of the rounded number asks for. -/
theorem positive_spec (hnum : 0 < num) (hden : 0 < den)
    (h : Significant places (num / den) digits exponent) :
    if exponent < -4 ∨ (places : ℤ) + 1 ≤ exponent then
      Scientific (positive (places + 1) num den) (digits * 10 ^ (exponent - places))
    else Plain (positive (places + 1) num den) (digits * 10 ^ (exponent - places)) := by
  obtain ⟨rfl, rfl⟩ := h.unique (significant_scientific places hnum hden)
  rw [positive]
  simp only [Nat.add_sub_cancel, Bool.or_eq_true, decide_eq_true_eq]
  push_cast
  split
  · exact scientific_of_significant h
  · rename_i hform
    exact plain_of_significant hnum hden h (by omega)

end Writing

namespace Numeric

open Writing (Plain Scientific)

/-- A finite double that is not zero is printed as its sign and as its value rounded to eight
digits, with an exponent exactly if the first of these digits stands below 10⁻⁴ or at 10⁸ and
above. -/
theorem chars_finite (negative : Bool) {units : ℕ} (hunits : units ≠ 0) :
    ∃ digits exponent text,
      Significant 7 (units / Binary64.one) digits exponent ∧
      (∀ digits' exponent', Significant 7 (units / Binary64.one) digits' exponent' →
        digits' = digits ∧ exponent' = exponent) ∧
      (float (.finite negative units)).chars = (if negative then ['-'] else []) ++ text ∧
      (Scientific text (digits * 10 ^ (exponent - 7)) ↔ exponent < -4 ∨ 8 ≤ exponent) ∧
      (Plain text (digits * 10 ^ (exponent - 7)) ↔ ¬(exponent < -4 ∨ 8 ≤ exponent)) := by
  have hnum := Nat.pos_of_ne_zero hunits
  have hden : 0 < Binary64.one := by exact_mod_cast Binary64.one_pos
  have hround := significant_scientific 7 hnum hden
  have hform := Writing.positive_spec hnum hden hround
  refine ⟨_, _, Writing.positive 8 units Binary64.one, hround, fun _ _ h ↦ h.unique hround, ?_, ?_⟩
  · rw [chars, Writing.double, if_neg hunits]
    rfl
  · split at hform
    · rename_i hscientific
      exact ⟨iff_of_true hform hscientific,
        iff_of_false (fun hplain ↦ hplain.not_mem hform.mem) (not_not_intro hscientific)⟩
    · rename_i hplain
      exact ⟨iff_of_false (fun hscientific ↦ hform.not_mem hscientific.mem) hplain,
        iff_of_true hform hplain⟩

/-- The digits of -9999999.96875 carry, and still no exponent is needed. -/
theorem chars_finite_carry : 319999999 * 2 ^ 1069 ≠ 0 ∧ ∃ text,
    Significant 7 ((319999999 * 2 ^ 1069 : ℕ) / Binary64.one) 10000000 7 ∧
      (float (.finite true (319999999 * 2 ^ 1069))).chars = '-' :: text ∧
      text = ['1', '0', '0', '0', '0', '0', '0', '0'] ∧
      Plain text ((10000000 : ℕ) * 10 ^ ((7 : ℤ) - 7)) := by
  have hnum : 0 < 319999999 * 2 ^ 1069 := by positivity
  have hden : 0 < Binary64.one := by exact_mod_cast Binary64.one_pos
  have hround := significant_scientific 7 hnum hden
  have hcarry : Writing.scientific 7 (319999999 * 2 ^ 1069) Binary64.one = (10000000, 7) := by
    decide +kernel
  rw [hcarry] at hround
  obtain ⟨digits, exponent, text, -, hunique, hchars, -, hplain⟩ := chars_finite true hnum.ne'
  obtain ⟨rfl, rfl⟩ := hunique 10000000 7 hround
  have htext : '-' :: text = '-' :: ['1', '0', '0', '0', '0', '0', '0', '0'] :=
    hchars.symm.trans (by decide +kernel)
  exact ⟨hnum.ne', text, hround, hchars, (List.cons.inj htext).2, hplain.2 (by decide)⟩

end Numeric

end Rollup
