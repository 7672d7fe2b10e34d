/-!
# Rounding exact quotients

Numbers are read, added and printed exactly, as quotients of natural numbers,
and rounded once at the end.  Rounding is always to the nearest whole number,
and a tie goes to the even neighbour.

* `nearestEven num den` is the whole number nearest to `num / den`.
* `log10 n` is the exponent of the greatest power of ten not above `n`.
-/

namespace Rollup

/-- The whole number nearest to `num / den`, the even one of two. -/
def nearestEven (num den : Nat) : Nat :=
  let q := num / den
  let r := num % den
  if 2 * r < den || (2 * r = den && q % 2 = 0) then q else q + 1

@[simp] theorem nearestEven_one (n : Nat) : nearestEven n 1 = n := by
  simp [nearestEven, Nat.mod_one]

/-- The exponent of the greatest power of ten not above a positive `n`. -/
def log10 (n : Nat) : Nat := if n < 10 then 0 else log10 (n / 10) + 1
  termination_by n
  decreasing_by omega

/-- The exponent of the greatest power of ten not above the positive quotient
`num / den`.  Below one it is counted on the reciprocal: `10 ^ k` reaches
`den / num` exactly when it exceeds the whole part of `(den - 1) / num`. -/
def decimalExponent (num den : Nat) : Int :=
  if den ≤ num then (log10 (num / den) : Int)
  else -((log10 ((den - 1) / num) + 1 : Nat) : Int)

/-- `num / den` times ten to the `shift`, rounded to a whole number. -/
def scaledRound (num den : Nat) (shift : Int) : Nat :=
  if 0 ≤ shift then nearestEven (num * Nat.pow 10 shift.toNat) den
  else nearestEven num (den * Nat.pow 10 (-shift).toNat)

end Rollup
