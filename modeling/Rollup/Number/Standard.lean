import Rollup.Number.Numeric

/-!
# The readers of numbers that come with the library

Integers are read by `Numeric.quick?`, which knows the usual spellings, and doubles by
`Reading.double?`.  They are what a program or an example uses that opens `Standard`; the
tables take any other readers as well.
-/

namespace Rollup

namespace Reading

open Binary64 (InRange inRange_rounded)

theorem inRange_ofDecimal (negative : Bool) (digits : Bytes) (exponent : Int) :
    InRange (ofDecimal negative digits exponent) := by
  unfold ofDecimal
  dsimp only
  split
  · exact Nat.lt_of_lt_of_eq (Nat.two_pow_pos 2098) (Nat.one_shiftLeft 2098).symm
  · split
    · trivial
    · split <;> exact inRange_rounded _ _ _

theorem inRange_of_decimal? {negative : Bool} {text : Bytes} {d : Binary64}
    (h : decimal? negative text = some d) : InRange d := by
  have hall (whole places rest : Bytes)
      (h : (if (whole.isEmpty && places.isEmpty) = true then none else (exponent? rest).map fun e ↦
        ofDecimal negative (whole ++ places) (e - places.length)) = some d) : InRange d := by
    split at h
    · cases h
    · obtain ⟨e, -, rfl⟩ := Option.map_eq_some_iff.1 h
      exact inRange_ofDecimal _ _ _
  unfold decimal? at h
  dsimp only at h
  split at h <;> exact hall _ _ _ h

theorem inRange_of_word? {negative : Bool} {text : Bytes} {d : Binary64}
    (h : word? negative text = some d) : InRange d := by
  unfold word? at h
  dsimp only at h
  split at h
  · cases h
    trivial
  · split at h
    · cases h
      trivial
    · cases h

theorem inRange_of_double? {field : Bytes} {d : Binary64} (h : double? field = some d) :
    InRange d := by
  unfold double? at h
  dsimp only at h
  split at h
  · rename_i x hdecimal
    cases h
    exact inRange_of_decimal? hdecimal
  · exact inRange_of_word? h

end Reading

namespace Numeric

/-- A quick reading of the usual spellings, which gives up on a plus sign and on
more bytes than an integer of 64 bits takes without padding. -/
def quick? (field : Bytes) : Option Int :=
  if field.length ≤ 20 && field.head? != some 0x2B then ofText? field else none

theorem agrees_quick? : Agrees quick? := by
  intro field v h
  rw [quick?] at h
  split at h
  · exact h
  · cases h

end Numeric

namespace Standard

scoped instance numberReader : NumberReader where
  quick? := Numeric.quick?
  double? := Reading.double?
  agrees := Numeric.agrees_quick?
  inRange := Reading.inRange_of_double?

end Standard

end Rollup
