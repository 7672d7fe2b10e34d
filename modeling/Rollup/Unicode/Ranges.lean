import Rollup.Text.Utf8

/-!
# Sets of code points

A set of code points is a list of closed ranges in increasing order, no two of
which touch.  The operations here build that form from any list of ranges and
keep it, so that a bracketed class of a pattern is a handful of list
operations, and looking a character up is one binary search.

The same representation serves for sets of bytes: only `complement` needs to
be told which universe it works in.
-/

namespace Rollup.Unicode

/-- Closed ranges of code points, increasing and apart. -/
abbrev Ranges := List (Nat × Nat)

namespace Ranges

/-- Adds the ranges of a list sorted by their start to `last`, joining those
that overlap or touch.  `done` holds the finished ranges back to front. -/
def join (done : Ranges) (last : Nat × Nat) : Ranges → Ranges
  | [] => (last :: done).reverse
  | r :: rest =>
    if r.1 ≤ last.2 + 1 then join done (last.1, max last.2 r.2) rest
    else join (last :: done) r rest

/-- The set covered by ranges in any order, overlapping or not; a range that
ends before it starts covers nothing. -/
def ofList (ranges : List (Nat × Nat)) : Ranges :=
  match (ranges.filter fun r ↦ r.1 ≤ r.2).mergeSort fun a b ↦ a.1 ≤ b.1 with
  | [] => []
  | r :: rest => join [] r rest

/-- What either set holds. -/
def union (a b : Ranges) : Ranges := ofList (a ++ b)

/-- The gaps between the ranges from `start` up to `top`. -/
def gaps (start top : Nat) : Ranges → Ranges
  | [] => if start ≤ top then [(start, top)] else []
  | r :: rest =>
    if start < r.1 then (start, r.1 - 1) :: gaps (r.2 + 1) top rest
    else gaps (r.2 + 1) top rest

/-- The byte values that are not in the set. -/
def byteComplement (a : Ranges) : Ranges := gaps 0 0xFF a

/-- The code points of characters that are not in the set.  Surrogates are
code points of no character, so they are in no complement. -/
def complement (a : Ranges) : Ranges := gaps 0 0x10FFFF (union a [(0xD800, 0xDFFF)])

/-- What both sets hold.  Of two ranges the one that ends first is done with. -/
def inter : Ranges → Ranges → Ranges
  | [], _ => []
  | _, [] => []
  | a :: as, b :: bs =>
    let rest := if a.2 < b.2 then inter as (b :: bs) else inter (a :: as) bs
    if max a.1 b.1 ≤ min a.2 b.2 then (max a.1 b.1, min a.2 b.2) :: rest else rest
  termination_by a b => a.length + b.length

/-- The parts of `a` that `b` does not cover. -/
def minus (a b : Ranges) : Ranges :=
  inter a (gaps 0 0x10FFFF b)

/-- What exactly one of the sets holds. -/
def symmetricDifference (a b : Ranges) : Ranges := union (minus a b) (minus b a)

/-- Whether the code point lies in one of the ranges. -/
def has (a : Ranges) (c : Nat) : Bool := a.any fun r ↦ r.1 ≤ c && c ≤ r.2

/-! ## Looking up -/

/-- Binary search for the only range of `table` between `low` and `high` that
can hold `c`. -/
def search (table : Array (Nat × Nat)) (c low high : Nat) : Bool :=
  if low < high then
    let middle := (low + high) / 2
    match table[middle]? with
    | none => false
    | some (first, last) =>
      if c < first then search table c low middle
      else if last < c then search table c (middle + 1) high
      else true
  else false
  termination_by high - low
  decreasing_by all_goals omega

/-- A membership test that is prepared once and then takes logarithmic time. -/
def prepared (a : Ranges) : Nat → Bool :=
  let table := a.toArray
  fun c ↦ search table c 0 table.size

end Ranges

/-! ## Compact tables

The standard's tables are long but regular.  They are written as texts of
run lengths, which is the shortest form that still can be read by eye. -/

/-- The words of a table's text, between spaces and line feeds. -/
def words (text : String) : List (List Char) :=
  let step (state : List (List Char) × List Char) (c : Char) :=
    if c = ' ' || c = '\n' then
      (if state.2.isEmpty then state.1 else state.2.reverse :: state.1, [])
    else (state.1, c :: state.2)
  let (done, last) := text.toList.foldl step ([], [])
  (if last.isEmpty then done else last.reverse :: done).reverse

/-- The set given by the lengths of the runs outside and inside it, in turn,
starting outside at code point zero. -/
def Ranges.ofRunLengths (text : String) : Ranges :=
  let step (state : Nat × Bool × Ranges) (word : List Char) :=
    let (start, inside, done) := state
    let stop := start + Nat.ofDigitChars 10 word 0
    (stop, !inside, if inside then (start, stop - 1) :: done else done)
  ((words text).foldl step (0, false, [])).2.2.reverse

/-- The runs of a partition of all code points, each given as a length (one if
it is left out) and the name of a part, with no blank between the two. -/
def labelledRuns (text : String) : List ((Nat × Nat) × String) :=
  let step (state : Nat × List ((Nat × Nat) × String)) (word : List Char) :=
    let digits := word.takeWhile Char.isDigit
    let length := if digits.isEmpty then 1 else Nat.ofDigitChars 10 digits 0
    let stop := state.1 + length
    (stop, ((state.1, stop - 1), String.ofList (word.dropWhile Char.isDigit)) :: state.2)
  ((words text).foldl step (0, [])).2.reverse

end Rollup.Unicode
