import Rollup.Pattern.Basic

/-!
# Patterns in reduced form

The same pieces can be described in many ways, and what a pattern weighs should
not depend on them more than it has to.  The functions of this module put
patterns together and keep them in reduced form:

* a set with one member is a literal, and literals in a row are one literal;
* a sequence has no sequence and no empty pattern among its parts, and a choice
  no choice among its branches;
* a choice between sets is a set;
* what all branches of a choice start with stands in front of the choice;
* what takes no bytes is repeated once at most, and nothing is repeated exactly
  once or never.
-/

namespace Rollup.Pattern

/-! ## Sets -/

/-- The bytes of a character in UTF-8. -/
def encoding (code : Nat) : Bytes := String.utf8EncodeChar (Char.ofNat code)

/-- One character of a set. -/
def oneCharacter (set : Unicode.Ranges) : Pattern :=
  match set with
  | [(first, last)] => if first = last then .literal (encoding first) else .character set
  | set => .character set

/-- One byte of a set. -/
def oneByte (set : Unicode.Ranges) : Pattern :=
  match set with
  | [(first, last)] => if first = last then .literal [first.toUInt8] else .byte set
  | set => .byte set

/-- Whether all members of the set are ASCII characters. -/
def isAscii (set : Unicode.Ranges) : Bool := set.all fun range ↦ range.2 < 0x80

/-- The set of characters that the pattern is one of, if it is that. -/
def characterSet? : Pattern → Option Unicode.Ranges
  | .literal bytes => match Utf8.first? bytes with
    | some (c, length) => if length = bytes.length then some [(c.toNat, c.toNat)] else none
    | none => none
  | .character set => some set
  | .byte set => if isAscii set then some set else none
  | _ => none

/-- The set of bytes that the pattern is one of, if it is that. -/
def byteSet? : Pattern → Option Unicode.Ranges
  | .literal [b] => some [(b.toNat, b.toNat)]
  | .byte set => some set
  | .character set => if isAscii set then some set else none
  | _ => none

/-- The union of patterns that are sets of the same kind. -/
def setOf? (branches : List Pattern) : Option Pattern :=
  match branches.mapM characterSet? with
  | some sets => some (oneCharacter (Unicode.Ranges.ofList sets.flatten))
  | none => (branches.mapM byteSet?).map fun sets ↦ oneByte (Unicode.Ranges.ofList sets.flatten)

/-! ## Sequences -/

/-- What the pattern adds to a sequence. -/
def parts : Pattern → List Pattern
  | .sequence parts => parts
  | .empty => []
  | one => [one]

/-- Makes one literal of literals in a row. -/
def joinLiterals : List Pattern → List Pattern
  | [] => []
  | .literal left :: rest => match joinLiterals rest with
    | .literal right :: rest => .literal (left ++ right) :: rest
    | rest => .literal left :: rest
  | part :: rest => part :: joinLiterals rest

/-- The patterns one behind the other. -/
def inSequence (patterns : List Pattern) : Pattern :=
  match joinLiterals (patterns.flatMap parts) with
  | [] => .empty
  | [one] => one
  | parts => .sequence parts

/-! ## Choices -/

mutual

/-- Whether one of the patterns can stand for both.  Two groups are not alike,
whatever is in them, since each records where it matched. -/
def alike : Pattern → Pattern → Bool
  | .empty, .empty => true
  | .literal a, .literal b => a = b
  | .character a, .character b => a = b
  | .byte a, .byte b => a = b
  | .anchor a, .anchor b => a = b
  | .sequence ps, .sequence qs => allAlike ps qs
  | .choice ps, .choice qs => allAlike ps qs
  | .repeated p least most lazy, .repeated q least' most' lazy' =>
    least = least' && most = most' && lazy = lazy' && alike p q
  | _, _ => false

/-- Whether two lists have patterns that are alike in the same places. -/
def allAlike : List Pattern → List Pattern → Bool
  | [], [] => true
  | p :: ps, q :: qs => alike p q && allAlike ps qs
  | _, _ => false

end

/-- What two sequences start with. -/
def commonStart : List Pattern → List Pattern → List Pattern
  | p :: ps, q :: qs => if alike p q then p :: commonStart ps qs else []
  | _, _ => []

/-- What the pattern adds to a choice. -/
def branches : Pattern → List Pattern
  | .choice branches => branches
  | one => [one]

/-- The parts of a sequence. -/
def sequenceParts? : Pattern → Option (List Pattern)
  | .sequence parts => some parts
  | _ => none

/-- What all branches start with, if they are sequences. -/
def sharedStart (patterns : List Pattern) : List Pattern :=
  match patterns.mapM sequenceParts? with
  | some (first :: rest) => rest.foldl commonStart first
  | _ => []

/-- One of the patterns, which do not start alike. -/
def inPlainChoice (patterns : List Pattern) : Pattern :=
  let patterns := patterns.flatMap branches
  (setOf? patterns).getD (.choice patterns)

/-- One of the patterns. -/
def inChoice (patterns : List Pattern) : Pattern :=
  let patterns := patterns.flatMap branches
  match setOf? patterns, sharedStart patterns with
  | some set, _ => set
  | none, [] => .choice patterns
  | none, start =>
    let ends := patterns.map fun p ↦ inSequence (p.parts.drop start.length)
    inSequence (start ++ [inPlainChoice ends])

/-! ## Repetitions -/

mutual

/-- Whether the pattern matches nothing that is longer than nothing. -/
def takesNothing : Pattern → Bool
  | .empty | .anchor _ => true
  | .literal _ | .character _ | .byte _ => false
  | .group body => body.takesNothing
  | .sequence parts => allTakeNothing parts
  | .choice branches => allTakeNothing branches
  | .repeated body _ _ _ => body.takesNothing

/-- Whether none of the patterns matches anything that is longer than
nothing. -/
def allTakeNothing : List Pattern → Bool
  | [] => true
  | p :: rest => p.takesNothing && allTakeNothing rest

end

/-- The pattern as often as between two bounds. -/
def repeatBetween (body : Pattern) (least : Nat) (most : Option Nat) (lazy : Bool) : Pattern :=
  let (least, most) :=
    if body.takesNothing then (min least 1, some (min (most.getD 1) 1)) else (least, most)
  if least = 0 && most = some 0 then .empty
  else if least = 1 && most = some 1 then body
  else .repeated body least most lazy

end Rollup.Pattern
