import Rollup.Pattern.Anchor
import Std.Data.TreeSet

/-!
# Patterns and what they match

A pattern matches pieces of a byte string, each of them between two places.  To
search, one need not know which pieces match, only whether one does; so
`Pattern.ends` follows all pieces at once, from the set of the places where they
may start to the set of the places where they may end.  Such a set is a list in
increasing order.

Each part of a pattern sees every set of places once, and a repetition follows
every place once, so no pattern makes a search go back.
-/

namespace Rollup

inductive Pattern where
  /-- Matches between a place and itself. -/
  | empty
  /-- These bytes, one behind the other. -/
  | literal (bytes : Bytes)
  /-- One character of the set, in UTF-8. -/
  | character (set : Unicode.Ranges)
  /-- One byte of the set. -/
  | byte (set : Unicode.Ranges)
  /-- Nothing, at certain places. -/
  | anchor (a : Pattern.Anchor)
  /-- A part that the pattern marks as a group. -/
  | group (body : Pattern)
  /-- All of the parts, one behind the other. -/
  | sequence (parts : List Pattern)
  /-- One of the branches. -/
  | choice (branches : List Pattern)
  /-- The body as often as between the two bounds, or without an upper bound.
  Whether few repetitions are preferred to many makes no difference to whether
  there is a match. -/
  | repeated (body : Pattern) (least : Nat) (most : Option Nat) (lazy : Bool)

namespace Pattern

/-! ## Sets of places -/

/-- What either of two increasing lists holds, put behind `done`, which is kept
back to front. -/
def mergeOnto (done : List Nat) : List Nat → List Nat → List Nat
  | [], right => done.reverse ++ right
  | left, [] => done.reverse ++ left
  | a :: left, b :: right =>
    if a < b then mergeOnto (a :: done) left (b :: right)
    else if b < a then mergeOnto (b :: done) (a :: left) right
    else mergeOnto (a :: done) left right
  termination_by left right => left.length + right.length

/-- What can be reached in at most so many rounds, apart from `seen`, when the
places in `fresh` are the ones reached last. -/
def spread (step : List Nat → List Nat) : Nat → Std.TreeSet Nat → List Nat → Std.TreeSet Nat
  | 0, seen, _ => seen
  | rounds + 1, seen, fresh =>
    let found := (step fresh).filter fun place ↦ !seen.contains place
    if found.isEmpty then seen else spread step rounds (seen.insertMany found) found

/-- What is reached after exactly so many rounds.  After a round that changes
nothing, no other does. -/
def rounds (step : List Nat → List Nat) : Nat → List Nat → List Nat
  | 0, places => places
  | count + 1, places =>
    let next := step places
    if next = places then places else rounds step count next

/-! ## Searching -/

mutual

/-- Where a match that starts in one of the places can end.

A match never goes back, and there are only so many places; so a chain of more
matches than there are places has one among them that stays where it is, and
this one can be left out or done once more.  That is why a repetition need not
be followed for more rounds than there are places. -/
def ends (s : Subject) : Pattern → List Nat → List Nat
  | .empty, places => places
  | .literal bytes, places =>
    (places.filter fun place ↦ s.spells bytes place).map (· + bytes.length)
  | .character set, places => places.filterMap fun place ↦
    match s.character? place with
    | some (c, length) => if set.has c then some (place + length) else none
    | none => none
  | .byte set, places => places.filterMap fun place ↦
    match s.byte? place with
    | some b => if set.has b then some (place + 1) else none
    | none => none
  | .anchor a, places => places.filter fun place ↦ a.holds s place
  | .group body, places => body.ends s places
  | .sequence parts, places => endsOfAll s parts places
  | .choice branches, places => endsOfAny s branches places
  | .repeated body least most _, places =>
    let enough := s.size + 1
    let started := rounds (body.ends s) (min least enough) places
    let more := match most with
      | some m => min (m - least) enough
      | none => enough
    (spread (body.ends s) more (Std.TreeSet.ofList started) started).toList

/-- Where a match of all the patterns, one behind the other, can end. -/
def endsOfAll (s : Subject) : List Pattern → List Nat → List Nat
  | [], places => places
  | p :: rest, places => endsOfAll s rest (p.ends s places)

/-- Where a match of one of the patterns can end. -/
def endsOfAny (s : Subject) : List Pattern → List Nat → List Nat
  | [], _ => []
  | p :: rest, places => mergeOnto [] (p.ends s places) (endsOfAny s rest places)

end

/-- Whether the pattern matches a piece of the byte string. -/
def occursIn (p : Pattern) (bytes : Bytes) : Bool :=
  let s := Subject.ofBytes bytes
  !(p.ends s (List.range (s.size + 1))).isEmpty

end Pattern

end Rollup
