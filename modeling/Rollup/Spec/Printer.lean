import Rollup.Spec.Pipeline
import Rollup.Text.Blank

/-!
# The canonical text of a pipeline

Every pipeline has one canonical text in the long forms of the spec language,
such as `filter(_1~AAPL) key(_0) max(_3, _2) => _1 _0`.  Reading it back gives
the pipeline again, except that an implicit stage is written, and comes back,
as the column `_0`.

A pattern is written without quotes when it can be: when it neither contains
what would end it (blanks, an arrow, an unmatched closing parenthesis) nor
would look different to a reader of the spec (quotes, an open parenthesis or
backslash at the end).
-/

namespace Rollup

/-- Writes `items` one after the other with `separator` between them. -/
def joined {α : Type} (separator : List Char) (render : α → List Char) : List α → List Char
  | [] => []
  | [x] => render x
  | x :: y :: rest => render x ++ separator ++ joined separator render (y :: rest)

/-- A number in decimal. -/
def decimal (n : Nat) : List Char := Nat.toDigits 10 n

/-- A field reference such as `_3`. -/
def fieldChars (field : Nat) : List Char := '_' :: decimal field

namespace Filter

/-- Whether the pattern can be written as it is, when `depth` parentheses are
open in front of it. -/
def bareFrom : Nat → List Char → Bool
  | depth, [] => depth = 0
  | _, ['\\'] => false
  | depth, '\\' :: _ :: rest => bareFrom depth rest
  | _, '=' :: '>' :: _ => false
  | depth, '(' :: rest => bareFrom (depth + 1) rest
  | depth, ')' :: rest => depth ≠ 0 && bareFrom (depth - 1) rest
  | depth, c :: rest => c ≠ '"' && c ≠ '\'' && !isBlank c && bareFrom depth rest

/-- Whether the pattern needs no quotes. -/
def isBare (pattern : List Char) : Bool := !pattern.isEmpty && bareFrom 0 pattern

/-- A pattern between double quotes. -/
def quotedPattern (pattern : List Char) : List Char :=
  '"' :: (pattern.flatMap fun c ↦ if c = '"' || c = '\\' then ['\\', c] else [c]) ++ ['"']

def chars (f : Filter) : List Char :=
  "filter(".toList ++ fieldChars f.field ++ ['~'] ++
    (if isBare f.pattern.toList then f.pattern.toList else quotedPattern f.pattern.toList) ++ [')']

end Filter

/-- The spec language's name for the aggregate. -/
def Goal.name : Goal → String
  | .lowest => "min"
  | .highest => "max"

def Component.chars : Component → List Char
  | .key f => "key(".toList ++ fieldChars f ++ [')']
  | .sum f => "sum(".toList ++ fieldChars f ++ [')']
  | .extremum goal fields =>
    goal.name.toList ++ ['('] ++ joined [',', ' '] fieldChars fields ++ [')']
  | .count => "count".toList
  | .distinct f => "count(distinct, ".toList ++ fieldChars f ++ [')']

def Body.chars : Body → List Char
  | .project [] => fieldChars 0
  | .project fields => joined [' '] fieldChars fields
  | .aggregate components => joined [' '] Component.chars components

def Stage.chars (s : Stage) : List Char :=
  (s.filters.flatMap fun f ↦ f.chars ++ [' ']) ++ s.body.chars

def Pipeline.chars (p : Pipeline) : List Char := joined " => ".toList Stage.chars p.stages

/-- The canonical text. -/
def Pipeline.render (p : Pipeline) : String := String.ofList p.chars

end Rollup
