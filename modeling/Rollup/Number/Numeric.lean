import Rollup.Error
import Rollup.Goal
import Rollup.Number.Reading
import Rollup.Number.Writing

/-!
# Numbers that are exact as long as possible

An aggregate counts with whole numbers of 64 bits while it can, and goes over
to doubles when a value is no such number or a sum leaves the range.  A number
that has become a double stays one.

A field is read as a whole number by two readers in turn: a quick one, which may
give up on some spellings, and one for any text.  The quick reader is a
parameter, as is the reader of doubles (`NumberReader`): nothing depends on
which spellings the quick one knows, nor on which fields are doubles.

Comparing a whole number with a double compares doubles, and so can miss the
difference between large whole numbers; comparing two whole numbers is exact.
-/

namespace Rollup

inductive Numeric where
  /-- No value yet. -/
  | unset
  | int (value : Int)
  | float (value : Binary64)
  deriving DecidableEq, Repr

namespace Numeric

/-- Whether the integer is one of 64 bits with a sign. -/
def fits (i : Int) : Bool := -0x8000000000000000 ≤ i && i < 0x8000000000000000

/-- The integer of 64 bits that a text spells. -/
def ofText? (text : Bytes) : Option Int := (Reading.integer? text).filter fits

/-- A quick reader that either gives up or reads the integer of 64 bits that the field spells. -/
def Agrees (quick : Bytes → Option Int) : Prop :=
  ∀ field v, quick field = some v → ofText? field = some v

/-- The integer of 64 bits that a field spells: the one that `quick` reads, or
else the one that the field spells as a text. -/
def integerBy? (quick : Bytes → Option Int) (field : Bytes) : Option Int :=
  match quick field with
  | some i => some i
  | none => if Utf8.isText field then ofText? field else none

/-- The number that a field spells: an integer of 64 bits if it spells one, and
otherwise a double. -/
def makeBy (quick : Bytes → Option Int) (double : Bytes → Option Binary64) (field : Bytes) :
    Except Error Numeric :=
  match integerBy? quick field with
  | some i => .ok (.int i)
  | none => match double field with
    | some d => .ok (.float d)
    | none => .error (.notANumber field)

end Numeric

/-- The readers to which the numbers in fields are left. -/
class NumberReader where
  /-- A quick reader of integers, which may give up on some spellings. -/
  quick? : Bytes → Option Int
  /-- The double that a field spells. -/
  double? : Bytes → Option Binary64
  agrees : Numeric.Agrees quick?
  inRange : ∀ {field d}, double? field = some d → d.InRange

namespace Numeric

/-- The number that a field spells. -/
def make [NumberReader] (field : Bytes) : Except Error Numeric :=
  makeBy NumberReader.quick? NumberReader.double? field

/-- The number that a field spells, if it spells one. -/
def read? [NumberReader] (field : Bytes) : Option Numeric := (make field).toOption

/-- The number as a double; no value counts as zero. -/
def toBinary64 : Numeric → Binary64
  | .unset => .zero
  | .int i => .ofInt i
  | .float x => x

def isFloat : Numeric → Bool
  | .float _ => true
  | _ => false

/-- An accumulator that has no value yet starts at zero. -/
def started : Numeric → Numeric
  | .unset => .int 0
  | x => x

/-- Adds `operand` to an accumulator.  Two integers whose sum fits have an
integer sum; any other sum is one of doubles. -/
def add (total operand : Numeric) : Numeric :=
  match total.started, operand with
  | .int a, .int b =>
    if fits (a + b) then .int (a + b) else .float ((Binary64.ofInt a).add (.ofInt b))
  | a, b => .float (a.toBinary64.add b.toBinary64)

/-- Whether an integer is strictly nearer to the goal than another. -/
def beatsInt : Goal → (candidate current : Int) → Bool
  | .lowest, candidate, current => candidate < current
  | .highest, candidate, current => current < candidate

/-- Whether a double is strictly nearer to the goal than another. -/
def beatsDouble : Goal → (candidate current : Binary64) → Bool
  | .lowest, candidate, current => candidate.lt current
  | .highest, candidate, current => current.lt candidate

/-- What takes the place of `current` because it is strictly nearer to the goal.
Beside a double an integer counts, and is kept, as a double. -/
def improvement? (goal : Goal) (current candidate : Numeric) : Option Numeric :=
  match current, candidate with
  | _, .unset => none
  | .unset, _ => some candidate
  | .int a, .int b => if beatsInt goal b a then some (.int b) else none
  | a, b =>
    if beatsDouble goal b.toBinary64 a.toBinary64 then some (.float b.toBinary64) else none

/-- The better of the two numbers; of two equal ones the current one. -/
def improve (goal : Goal) (current candidate : Numeric) : Numeric :=
  (improvement? goal current candidate).getD current

/-- The number as it is printed; no value prints as nothing. -/
def chars : Numeric → List Char
  | .unset => []
  | .int i => Writing.integer i
  | .float x => Writing.double x

/-- The bytes of the number as it is printed. -/
def bytes (x : Numeric) : Bytes := x.chars.map fun c ↦ c.toNat.toUInt8

end Numeric

end Rollup
