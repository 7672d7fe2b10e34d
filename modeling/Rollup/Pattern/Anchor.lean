import Rollup.Pattern.Subject
import Rollup.Unicode.Names

/-!
# Anchors

An anchor matches no bytes; it says something about the place where it stands.

| Anchor | Holds |
|---|---|
| `textStart`, `textEnd` | at the two ends |
| `lineStart`, `lineEnd` | also behind and in front of a line ending |
| `word` | by which of the neighbours are word characters |

For the anchors that speak of words, the neighbours are characters or bytes.
A neighbour that is not a character is no word character.  The anchors that
hold by the absence of a word character ask for more: there may be no
neighbour, but one that is no character makes them fail.
-/

namespace Rollup.Pattern

/-- What a place has to be with respect to words. -/
inductive WordEdge where
  /-- Exactly one neighbour is a word character. -/
  | boundary
  /-- Both neighbours are word characters, or none is. -/
  | noBoundary
  /-- A word starts here. -/
  | start
  /-- A word ends here. -/
  | stop
  /-- No word character stands in front. -/
  | startHalf
  /-- No word character follows. -/
  | stopHalf
  deriving DecidableEq, Repr

inductive Anchor where
  | textStart
  | textEnd
  /-- The argument says whether a carriage return ends a line too. -/
  | lineStart (returns : Bool)
  /-- The argument says whether a carriage return ends a line too. -/
  | lineEnd (returns : Bool)
  /-- The argument says whether the neighbours are characters or bytes. -/
  | word (unicode : Bool) (edge : WordEdge)
  deriving DecidableEq, Repr

/-! ## Word characters -/

def wordTable : Array (Nat × Nat) := Unicode.wordCharacters.toArray

/-- Whether the code point is one of a word character. -/
def isWordCharacter (c : Nat) : Bool := Unicode.Ranges.search wordTable c 0 wordTable.size

/-- The ASCII letters and digits, and the underscore. -/
def isWordByte (b : Nat) : Bool :=
  (0x30 ≤ b && b ≤ 0x39) || (0x41 ≤ b && b ≤ 0x5A) || b = 0x5F || (0x61 ≤ b && b ≤ 0x7A)

/-- What stands on one side of a place. -/
inductive Neighbour where
  | nothing
  /-- Bytes that spell no character. -/
  | noCharacter
  | some (isWord : Bool)
  deriving DecidableEq, Repr

def Neighbour.isWord : Neighbour → Bool
  | .some isWord => isWord
  | _ => false

/-- Whether it is certain that there is no word character. -/
def Neighbour.isNoWord : Neighbour → Bool
  | .nothing => true
  | .noCharacter => false
  | .some isWord => !isWord

def Neighbour.ofCharacter : Option Nat → Neighbour
  | Option.some c => .some (isWordCharacter c)
  | none => .noCharacter

def Neighbour.ofByte : Option Nat → Neighbour
  | Option.some b => .some (isWordByte b)
  | none => .nothing

/-- What stands in front of a place. -/
def before (unicode : Bool) (s : Subject) (place : Nat) : Neighbour :=
  if place = 0 then .nothing
  else if unicode then .ofCharacter (s.characterBefore? place)
  else .ofByte (s.byteBefore? place)

/-- What stands behind a place. -/
def after (unicode : Bool) (s : Subject) (place : Nat) : Neighbour :=
  if s.size ≤ place then .nothing
  else if unicode then .ofCharacter ((s.character? place).map (·.1))
  else .ofByte (s.byte? place)

/-- Whether a place between these neighbours is as the edge says. -/
def WordEdge.holds (left right : Neighbour) : WordEdge → Bool
  | .boundary => left.isWord != right.isWord
  | .noBoundary => (left.isWord && right.isWord) || (left.isNoWord && right.isNoWord)
  | .start => !left.isWord && right.isWord
  | .stop => left.isWord && !right.isWord
  | .startHalf => left.isNoWord
  | .stopHalf => right.isNoWord

/-! ## Anchors -/

/-- A line starts behind a line feed.  Where carriage returns end lines too, it
starts behind a carriage return, but not inside the pair of both. -/
def isLineStart (returns : Bool) (s : Subject) (place : Nat) : Bool :=
  place = 0 || s.byteBefore? place = some 0x0A ||
    (returns && s.byteBefore? place = some 0x0D && s.byte? place ≠ some 0x0A)

/-- A line ends in front of a line feed.  Where carriage returns end lines too,
it ends in front of a carriage return, but not inside the pair of both. -/
def isLineEnd (returns : Bool) (s : Subject) (place : Nat) : Bool :=
  place = s.size ||
    (s.byte? place = some 0x0A && !(returns && s.byteBefore? place = some 0x0D)) ||
    (returns && s.byte? place = some 0x0D)

def Anchor.holds (s : Subject) (place : Nat) : Anchor → Bool
  | .textStart => place = 0
  | .textEnd => place = s.size
  | .lineStart returns => isLineStart returns s place
  | .lineEnd returns => isLineEnd returns s place
  | .word unicode edge => edge.holds (before unicode s place) (after unicode s place)

end Rollup.Pattern
