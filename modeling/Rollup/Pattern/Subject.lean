import Rollup.Text.Utf8

/-!
# The subject of a search

A pattern is looked for in a byte string, which need not be text.  `Subject`
is that byte string, prepared so that a search can ask at any place which byte
and which character begin there, and which character ends there.

Places are counted from 0, in front of the first byte, to the number of bytes,
behind the last one.
-/

namespace Rollup.Pattern

/-- A byte string to search in. -/
structure Subject where
  bytes : Array UInt8
  /-- For every byte the code point of the character that begins with it and the
  number of its bytes, if one does. -/
  characters : Array (Option (Nat × Nat))

namespace Subject

/-- Puts what begins at every byte of a string behind `done`. -/
def charactersOnto (done : Array (Option (Nat × Nat))) : Bytes → Array (Option (Nat × Nat))
  | [] => done
  | b :: rest =>
    charactersOnto (done.push ((Utf8.first? (b :: rest)).map fun (c, n) ↦ (c.toNat, n))) rest

def ofBytes (bytes : Bytes) : Subject := ⟨bytes.toArray, charactersOnto #[] bytes⟩

/-- The number of bytes, which is also the last place. -/
def size (s : Subject) : Nat := s.bytes.size

/-- The byte behind a place. -/
def byte? (s : Subject) (place : Nat) : Option Nat := s.bytes[place]?.map UInt8.toNat

/-- The byte in front of a place. -/
def byteBefore? (s : Subject) : Nat → Option Nat
  | 0 => none
  | place + 1 => s.byte? place

/-- Whether these bytes stand behind a place. -/
def spells (s : Subject) : Bytes → Nat → Bool
  | [], _ => true
  | b :: rest, place => s.bytes[place]? = some b && spells s rest (place + 1)

/-- The code point and the length of the character behind a place. -/
def character? (s : Subject) (place : Nat) : Option (Nat × Nat) := s.characters[place]?.join

/-- Goes back from a byte over at most `steps` continuation bytes. -/
def leadBefore (s : Subject) : Nat → Nat → Nat
  | 0, place => place
  | _, 0 => 0
  | steps + 1, place + 1 =>
    match s.bytes[place + 1]? with
    | some b => if Utf8.isTail b then leadBefore s steps place else place + 1
    | none => place + 1

/-- The code point of the character in front of a place.  Stray continuation
bytes count as part of the character that they follow. -/
def characterBefore? (s : Subject) : Nat → Option Nat
  | 0 => none
  | last + 1 =>
    let first := s.leadBefore 3 last
    match s.character? first with
    | some (c, length) => if first + length ≤ last + 1 then some c else none
    | none => none

end Subject

end Rollup.Pattern
