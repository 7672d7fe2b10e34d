import Rollup.Number.Binary64

/-!
# Writing doubles

A double is printed with eight significant digits, from which trailing zeros
behind the point are dropped: `0.1`, `1234.5`, `100000`.  When the first digit
stands below 10⁻⁴ or at 10⁸ and above, the number is printed with an exponent
of a sign and at least two digits: `1e-05`, `1.2345679e+08`.

The digits are those of the exact value, rounded to the nearest, ties to even.
Rounding may carry into the next power of ten, and it is the rounded number that
decides between the two forms.  A number without an exponent is rounded again,
to the place where the last of the eight digits stands.
-/

namespace Rollup.Writing

/-- How many significant digits a double is printed with. -/
def precision : Nat := 8

/-- A positive quotient rounded to one digit in front of the point and `places`
behind it: the digits as a number, and the exponent of the first. -/
def scientific (places num den : Nat) : Nat × Int :=
  let exponent := decimalExponent num den
  let digits := scaledRound num den (places - exponent)
  if digits < Nat.pow 10 (places + 1) then (digits, exponent)
  else (Nat.pow 10 places, exponent + 1)

/-- A number in decimal, with zeros in front of it up to `size` digits. -/
def padded (size n : Nat) : List Char :=
  let digits := Nat.toDigits 10 n
  List.replicate (size - digits.length) '0' ++ digits

/-- The quotient `n / 10 ^ places`, with `places` digits behind the point. -/
def fixed (places n : Nat) : List Char :=
  let digits := padded (places + 1) n
  let whole := digits.length - places
  if places = 0 then digits else digits.take whole ++ '.' :: digits.drop whole

/-- Drops the characters `c` at the end. -/
def trimEnd (c : Char) (text : List Char) : List Char :=
  (text.reverse.dropWhile (· = c)).reverse

/-- Drops the zeros at the end behind a point, and a point with nothing behind it. -/
def trimFraction (text : List Char) : List Char :=
  if text.elem '.' then trimEnd '.' (trimEnd '0' text) else text

/-- An exponent: its sign and at least two digits. -/
def exponentPart (e : Int) : List Char :=
  'e' :: (if e < 0 then '-' else '+') :: padded 2 e.natAbs

/-- A positive quotient with `digits` significant digits, in the shorter of its
two forms. -/
def positive (digits num den : Nat) : List Char :=
  let places := digits - 1
  let (mantissa, exponent) := scientific places num den
  if exponent < -4 || (digits : Int) ≤ exponent then
    trimFraction (fixed places mantissa) ++ exponentPart exponent
  else
    let decimals := (places - exponent).toNat
    trimFraction (fixed decimals (nearestEven (num * Nat.pow 10 decimals) den))

/-- A double as it is printed. -/
def double : Binary64 → List Char
  | .nan => ['N', 'a', 'N']
  | .infinite negative => (if negative then ['-'] else []) ++ ['i', 'n', 'f']
  | .finite negative units =>
    (if negative then ['-'] else []) ++
      (if units = 0 then ['0'] else positive precision units Binary64.one)

/-- An integer in decimal. -/
def integer (i : Int) : List Char :=
  if i < 0 then '-' :: Nat.toDigits 10 i.natAbs else Nat.toDigits 10 i.natAbs

end Rollup.Writing
