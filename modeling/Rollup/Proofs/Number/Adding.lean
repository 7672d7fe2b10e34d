import Mathlib.Data.List.Induction
import Rollup.Proofs.Table.Sum

/-!
# How long an accumulator is exact

An accumulator is asked to add numbers none of which is a double, and is none itself to begin with.
It counts as an integer then, and so does every number (`Numeric.whole`); what has no value
counts as zero.

One more number leaves it exact or makes it a double (`add_of_exact`, `add_of_spoils`).  A
number spoils an accumulator if the exact sum needs more than 64 bits, but also if it has no
value: that is zero where it is added to, and a double where it is added.  So the
accumulator is an integer up to the first number that spoils it, and a double from there on
(`foldl_add_exact`).
-/

namespace Rollup.Numeric

variable {start x total : Numeric} {xs front : List Numeric}

/-- The integer that a number counts as if it is no double. -/
def whole : Numeric → Int
  | .int i => i
  | .unset | .float _ => 0

/-- What the numbers come to, beginning with `start`. -/
def wholeSum (start : Numeric) (xs : List Numeric) : Int := start.whole + (xs.map whole).sum

/-- Added to an exact sum, the number makes it a double. -/
def Spoils (sum : Int) (x : Numeric) : Prop := x = .unset ∨ ¬ fits (sum + x.whole)

/-- None of the numbers spoils the sum of those before it. -/
def Exact (start : Numeric) (xs : List Numeric) : Prop :=
  ∀ front x, front ++ [x] <+: xs → ¬ Spoils (wholeSum start front) x

theorem wholeSum_snoc (start : Numeric) (xs : List Numeric) (x : Numeric) :
    wholeSum start (xs ++ [x]) = wholeSum start xs + x.whole := by
  simp [wholeSum, Int.add_assoc]

theorem exact_nil (start : Numeric) : Exact start [] := by
  intro front x h
  exact absurd (List.prefix_nil.1 h) (by simp)

theorem exact_snoc :
    Exact start (xs ++ [x]) ↔ Exact start xs ∧ ¬ Spoils (wholeSum start xs) x := by
  constructor
  · intro h
    refine ⟨fun front y hfront ↦ h front y ?_, h xs x (List.prefix_refl _)⟩
    exact hfront.trans (List.prefix_append xs [x])
  · rintro ⟨hxs, hx⟩ front y hfront
    rcases List.prefix_concat_iff.1 hfront with heq | hle
    · obtain ⟨rfl, hy⟩ := List.append_inj' heq rfl
      cases hy
      exact hx
    · exact hxs front y hle

/-! ## One more number -/

theorem add_of_exact (htotal : total.isFloat = false) (hx : x.isFloat = false)
    (h : ¬ Spoils total.whole x) : total.add x = .int (total.whole + x.whole) := by
  rw [Spoils, not_or, not_not] at h
  cases x with
  | unset => exact absurd rfl h.1
  | float d => cases hx
  | int i =>
    cases total with
    | unset => exact if_pos h.2
    | int a => exact if_pos h.2
    | float d => cases htotal

theorem add_of_spoils (htotal : total.isFloat = false) (hx : x.isFloat = false)
    (h : Spoils total.whole x) :
    total.add x = .float ((Binary64.ofInt total.whole).add x.toBinary64) := by
  cases x with
  | unset =>
    cases total with
    | unset => rfl
    | int a => rfl
    | float d => cases htotal
  | float d => cases hx
  | int i =>
    have hfits : ¬ fits (total.whole + i) := h.resolve_left Numeric.noConfusion
    cases total with
    | unset => exact if_neg hfits
    | int a => exact if_neg hfits
    | float d => cases htotal

theorem isFloat_add_of_isFloat (h : total.isFloat = true) (x : Numeric) :
    (total.add x).isFloat = true := by
  cases total with
  | unset => cases h
  | int a => cases h
  | float d => cases x <;> rfl

/-! ## All numbers -/

/-- As long as nothing spoils the sum, it is exact; `start` may have no value as long as
nothing has been added. -/
theorem foldl_add_of_exact (hstart : start.isFloat = false) (hxs : ∀ x ∈ xs, x.isFloat = false)
    (h : Exact start xs) :
    (xs.foldl add start).isFloat = false ∧ (xs.foldl add start).whole = wholeSum start xs ∧
      (xs ≠ [] → xs.foldl add start = .int (wholeSum start xs)) := by
  induction xs using List.reverseRecOn with
  | nil =>
    refine ⟨hstart, ?_, absurd rfl⟩
    simp [wholeSum]
  | append_singleton xs x ih =>
    rw [List.forall_mem_append, List.forall_mem_singleton] at hxs
    rw [exact_snoc] at h
    obtain ⟨htotal, hwhole, -⟩ := ih hxs.1 h.1
    have hadd : (xs ++ [x]).foldl add start = .int (wholeSum start (xs ++ [x])) := by
      rw [List.foldl_append, List.foldl_cons, List.foldl_nil, wholeSum_snoc, ← hwhole]
      rw [← hwhole] at h
      exact add_of_exact htotal hxs.2 h.2
    rw [hadd]
    exact ⟨rfl, rfl, fun _ ↦ rfl⟩

/-- Once a number has spoilt the sum, it is a double. -/
theorem isFloat_foldl_add (hstart : start.isFloat = false) (hxs : ∀ x ∈ xs, x.isFloat = false)
    (h : ¬ Exact start xs) : (xs.foldl add start).isFloat = true := by
  induction xs using List.reverseRecOn with
  | nil => exact absurd (exact_nil start) h
  | append_singleton xs x ih =>
    rw [List.forall_mem_append, List.forall_mem_singleton] at hxs
    rw [List.foldl_append, List.foldl_cons, List.foldl_nil]
    by_cases hfront : Exact start xs
    · obtain ⟨htotal, hwhole, -⟩ := foldl_add_of_exact hstart hxs.1 hfront
      have hspoils : Spoils (wholeSum start xs) x :=
        not_not.1 fun hx ↦ h (exact_snoc.2 ⟨hfront, hx⟩)
      rw [← hwhole] at hspoils
      rw [add_of_spoils htotal hxs.2 hspoils]
      rfl
    · exact isFloat_add_of_isFloat (ih hxs.1 hfront) x

/-- Where neither the accumulator nor an operand is a double, the accumulator is the exact sum
after at least one number as long as each sum on the way fits in 64 bits and each operand has
a value.  It becomes a double at the first number for which this fails, and at no other. -/
theorem foldl_add_exact (hstart : start.isFloat = false) (hxs : ∀ x ∈ xs, x.isFloat = false) :
    (∀ part, part ≠ [] → part <+: xs →
      (∀ front x, front ++ [x] <+: part → x ≠ .unset ∧ fits (wholeSum start (front ++ [x]))) →
        part.foldl add start = .int (wholeSum start part)) ∧
    ∀ front x, front ++ [x] <+: xs → (front.foldl add start).isFloat = false →
      (((front ++ [x]).foldl add start).isFloat = true ↔
        x = .unset ∨ ¬ fits (wholeSum start (front ++ [x]))) := by
  refine ⟨fun part hne hpart hexact ↦ ?_, fun front x hle hfront ↦ ?_⟩
  · refine (foldl_add_of_exact hstart (fun x hx ↦ hxs x (hpart.mem hx)) ?_).2.2 hne
    intro front x hle hspoils
    obtain ⟨hset, hfits⟩ := hexact front x hle
    rw [wholeSum_snoc] at hfits
    exact hspoils.elim hset (absurd hfits)
  · have hdoubles : ∀ y ∈ front ++ [x], y.isFloat = false := fun y hy ↦ hxs y (hle.mem hy)
    have hfrontExact : Exact start front := by
      by_contra hnot
      have hfloat := isFloat_foldl_add hstart
        (fun y hy ↦ hdoubles y (List.mem_append_left _ hy)) hnot
      rw [hfront] at hfloat
      cases hfloat
    have hiff : Exact start (front ++ [x]) ↔
        ¬ (x = .unset ∨ ¬ fits (wholeSum start (front ++ [x]))) := by
      rw [exact_snoc, and_iff_right hfrontExact, Spoils, wholeSum_snoc]
    constructor
    · intro hfloat
      by_contra hkept
      rw [(foldl_add_of_exact hstart hdoubles (hiff.2 hkept)).1] at hfloat
      cases hfloat
    · exact fun hspoils ↦ isFloat_foldl_add hstart hdoubles fun hexact ↦ hiff.1 hexact hspoils

/-- The largest integer, from no value on, and then no value at all, which makes it a double. -/
theorem foldl_add_exact_unset :
    let xs : List Numeric := [.int 9223372036854775807, .unset]
    isFloat .unset = false ∧ (∀ x ∈ xs, x.isFloat = false) ∧
      add .unset (.int 9223372036854775807) = .int 9223372036854775807 ∧
      (xs.foldl add .unset).isFloat = true := by
  intro xs
  have hxs : ∀ x ∈ xs, x.isFloat = false := by decide
  have hunset : isFloat .unset = false := rfl
  obtain ⟨hexact, hbecomes⟩ := foldl_add_exact hunset hxs
  have hfirst : ∀ front x, front ++ [x] <+: [Numeric.int 9223372036854775807] →
      x ≠ .unset ∧ fits (wholeSum .unset (front ++ [x])) := by
    intro front x hle
    obtain ⟨rfl, heq⟩ : front = [] ∧ [x] = [.int 9223372036854775807] := by
      rcases front with _ | ⟨y, front⟩
      · simpa using hle
      · have hlength := hle.length_le
        simp at hlength
    cases heq
    exact ⟨Numeric.noConfusion, by decide⟩
  refine ⟨hunset, hxs, ?_, ?_⟩
  · exact hexact [.int 9223372036854775807] (by simp) (by simp [xs]) hfirst
  · exact (hbecomes [.int 9223372036854775807] .unset (by simp [xs]) rfl).2 (.inl rfl)

/-- Adding no value is not adding zero: it makes a double of an integer that fits, and not even
a double that is printed with all its digits. -/
theorem foldl_add_not_exact :
    ¬ ∀ (start : Numeric) (xs : List Numeric), start.isFloat = false →
        (∀ x ∈ xs, x.isFloat = false) → xs ≠ [] →
        (∀ part, part ≠ [] → part <+: xs → fits (wholeSum start part)) →
          xs.foldl add start = .int (wholeSum start xs) := by
  intro h
  have hsums : ∀ part, part ≠ [] → part <+: [Numeric.unset] →
      fits (wholeSum (.int 9007199254740993) part) := by
    intro part hne hpart
    obtain rfl : part = [.unset] := by
      rcases List.prefix_cons_iff.1 hpart with rfl | ⟨rest, rfl, hrest⟩
      · exact absurd rfl hne
      · rw [List.prefix_nil.1 hrest]
    decide
  have hsame := h (.int 9007199254740993) [.unset] rfl (by decide) (by simp) hsums
  cases hsame

end Rollup.Numeric
