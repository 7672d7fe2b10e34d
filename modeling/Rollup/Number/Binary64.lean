import Rollup.Number.Round

/-!
# Double precision numbers

A finite double is a whole multiple of the smallest positive one, 2⁻¹⁰⁷⁴.  That
multiple, as a natural number beside a sign, is how this library holds it:
comparing is comparing integers, adding is adding integers and rounding once,
and every law about doubles is a law about natural numbers.  The zero with a
negative sign stays apart from the other one.

| Operation | Rounds |
|---|---|
| `Binary64.ofInt`, `Binary64.ofQuotient`, `Binary64.add` | once, ties to even |
| `Binary64.ofWord`, `Binary64.toWord?`, `Binary64.lt` | never |

Only multiples with at most 53 significant bits below 2²⁰⁹⁸ are doubles; the
rounding functions and `ofWord` yield no others.
-/

namespace Rollup

inductive Binary64 where
  | nan
  | infinite (negative : Bool)
  /-- `units` times 2⁻¹⁰⁷⁴. -/
  | finite (negative : Bool) (units : Nat)
  deriving DecidableEq, Repr

namespace Binary64

/-- One, as a multiple of the smallest positive double. -/
def one : Nat := 1 <<< 1074

/-- The least power of two that is too large for a finite double. -/
def limit : Nat := 1 <<< 2098

/-! ## Rounding -/

/-- The distance of neighbouring doubles around `n` units. -/
def spacing (n : Nat) : Nat := 1 <<< (n.log2 - 52)

/-- The double nearest to `num / den` units, among those without a sign and with
exponents of any size. -/
def roundUnits (num den : Nat) : Nat :=
  let step := spacing (num / den)
  nearestEven num (den * step) * step

/-- The double of this sign nearest to `num / den` units. -/
def rounded (negative : Bool) (num den : Nat) : Binary64 :=
  let units := roundUnits num den
  if units < limit then .finite negative units else .infinite negative

/-- A finite double stands below the least power of two that is none. -/
def InRange : Binary64 → Prop
  | .finite _ units => units < limit
  | _ => True

theorem inRange_rounded (negative : Bool) (num den : Nat) : InRange (rounded negative num den) := by
  unfold rounded
  dsimp only
  split
  · assumption
  · trivial

/-- The double nearest to the quotient of two numbers. -/
def ofQuotient (negative : Bool) (num den : Nat) : Binary64 := rounded negative (num * one) den

/-- The double nearest to an integer. -/
def ofInt (i : Int) : Binary64 := ofQuotient (i < 0) i.natAbs 1

/-! ## Comparing and adding -/

/-- Where the number stands among all doubles.  The infinities stand outside the
finite ones, the two zeros at the same place, and what is no number nowhere. -/
def rank? : Binary64 → Option Int
  | .nan => none
  | .infinite negative => some (if negative then -(limit : Int) else limit)
  | .finite negative units => some (if negative then -(units : Int) else units)

/-- Strictly less; false as soon as one side is no number. -/
def lt (a b : Binary64) : Bool :=
  match a.rank?, b.rank? with
  | some x, some y => x < y
  | _, _ => false

/-- The sum.  A sum that cancels is a zero without a sign, unless both terms
carried one. -/
def add : Binary64 → Binary64 → Binary64
  | .nan, _ => .nan
  | _, .nan => .nan
  | .infinite a, .infinite b => if a = b then .infinite a else .nan
  | .infinite a, .finite _ _ => .infinite a
  | .finite _ _, .infinite b => .infinite b
  | .finite a m, .finite b n =>
    let sum : Int := (if a then -(m : Int) else m) + (if b then -(n : Int) else n)
    if sum = 0 then .finite (a && b) 0 else rounded (sum < 0) sum.natAbs 1

/-- Zero, not negative. -/
def zero : Binary64 := .finite false 0

/-! ## Interchange words -/

/-- The double with this 64-bit word: a sign bit, eleven exponent bits and 52
fraction bits. -/
def ofWord (word : Nat) : Binary64 :=
  let negative := word / (1 <<< 63) % 2 = 1
  let exponent := word / (1 <<< 52) % (1 <<< 11)
  let fraction := word % (1 <<< 52)
  if exponent = 2047 then (if fraction = 0 then .infinite negative else .nan)
  else if exponent = 0 then .finite negative fraction
  else .finite negative (((1 <<< 52) + fraction) * (1 <<< (exponent - 1)))

/-- The word without its sign bit of a finite double. -/
def magnitudeWord (units : Nat) : Nat :=
  if units < 1 <<< 52 then units
  else
    let exponent := units.log2 - 52
    (exponent + 1) * (1 <<< 52) + (units / (1 <<< exponent) - (1 <<< 52))

/-- The 64-bit word of a double that is a number. -/
def toWord? : Binary64 → Option Nat
  | .nan => none
  | .infinite negative => some ((if negative then 1 <<< 63 else 0) + 2047 * (1 <<< 52))
  | .finite negative units => some ((if negative then 1 <<< 63 else 0) + magnitudeWord units)

end Binary64

end Rollup
