import Rollup.Number.Binary64
import Rollup.Text.Utf8

/-!
# Reading numbers

A field is read as a number in one of two ways.

* An *integer* is decimal digits, with at most one sign in front.
* A *double* is decimal digits, of which any number may stand behind a point,
  with at most one sign in front and perhaps an exponent behind; or one of the
  words `nan`, `inf` and `infinity` in any case, with at most one sign in front.

The whole field has to be of the form; nothing may stand before or behind it,
not even a blank.  A double is the one nearest to the exact decimal value.
-/

namespace Rollup.Reading

/-- An ASCII digit. -/
def isDigit (b : UInt8) : Bool := 0x30 ≤ b && b ≤ 0x39

/-- The number that the digits `digits` continue when `n` has been read. -/
def digitsFrom (n : Nat) (digits : Bytes) : Nat :=
  digits.foldl (fun n b ↦ n * 10 + (b.toNat - 0x30)) n

/-- Takes a sign off the front; the answer says whether it was a minus. -/
def signed : Bytes → Bool × Bytes
  | [] => (false, [])
  | b :: rest =>
    if b = 0x2D then (true, rest) else if b = 0x2B then (false, rest) else (false, b :: rest)

/-- The integer that the field spells, of any size. -/
def integer? (field : Bytes) : Option Int :=
  let (negative, digits) := signed field
  if digits.isEmpty || !digits.all isDigit then none
  else some (if negative then -(digitsFrom 0 digits : Int) else digitsFrom 0 digits)

/-! ## Doubles -/

/-- The digits of an exponent, which stop counting once it has reached 65536:
by then the number has long been zero or infinite, unless it was written with
as many digits. -/
def exponentDigits (digits : Bytes) : Nat :=
  digits.foldl (fun n b ↦ if n < 0x10000 then n * 10 + (b.toNat - 0x30) else n) 0

/-- The exponent at the end of a number, zero if nothing is left. -/
def exponent? : Bytes → Option Int
  | [] => some 0
  | b :: rest =>
    if b = 0x65 || b = 0x45 then
      let (negative, digits) := signed rest
      if digits.isEmpty || !digits.all isDigit then none
      else some (if negative then -(exponentDigits digits : Int) else exponentDigits digits)
    else none

/-- The double nearest to `digits` read as a whole number, times ten to the
`exponent`.  A value whose first digit stands above 10³⁰⁹ is infinite and one
below 10⁻³²⁴ is zero, which spares the large powers. -/
def ofDecimal (negative : Bool) (digits : Bytes) (exponent : Int) : Binary64 :=
  let significant := digits.dropWhile (· = 0x30)
  let size : Int := significant.length + exponent
  if significant.isEmpty || size < -324 then .finite negative 0
  else if 310 < size then .infinite negative
  else if 0 ≤ exponent then
    .ofQuotient negative (digitsFrom 0 significant * Nat.pow 10 exponent.toNat) 1
  else .ofQuotient negative (digitsFrom 0 significant) (Nat.pow 10 (-exponent).toNat)

/-- A double written with digits. -/
def decimal? (negative : Bool) (text : Bytes) : Option Binary64 :=
  let whole := text.takeWhile isDigit
  let rest := text.dropWhile isDigit
  let (places, rest) := match rest with
    | [] => ([], [])
    | b :: behind =>
      if b = 0x2E then (behind.takeWhile isDigit, behind.dropWhile isDigit) else ([], b :: behind)
  if whole.isEmpty && places.isEmpty then none
  else (exponent? rest).map fun e ↦
    ofDecimal negative (whole ++ places) (e - places.length)

/-- The byte with ASCII letters in lower case. -/
def lowerCase (b : UInt8) : UInt8 := if 0x41 ≤ b && b ≤ 0x5A then b + 32 else b

/-- A double written as a word. -/
def word? (negative : Bool) (text : Bytes) : Option Binary64 :=
  let word := text.map lowerCase
  if word = Bytes.ascii "nan" then some .nan
  else if word = Bytes.ascii "inf" || word = Bytes.ascii "infinity" then
    some (.infinite negative)
  else none

/-- The double that the field spells. -/
def double? (field : Bytes) : Option Binary64 :=
  let (negative, text) := signed field
  match decimal? negative text with
  | some x => some x
  | none => word? negative text

end Rollup.Reading
