/-!
# Bytes and UTF-8

Input lines are bytes, and nothing promises that they are text.  This module
fixes the type of byte strings and the readings of them as UTF-8 that the rest
of the library needs:

| Reading | Answer on malformed bytes | Used for |
|---|---|---|
| `Utf8.first?` | none | pattern matching, position by position |
| `Utf8.isText` | false | numbers, which are read from text |
| `Utf8.lossy` | U+FFFD once per maximal malformed piece | error messages |

All are built on `Utf8.piece`, which looks at the front of a non-empty byte
string and says either which character it spells or how many bytes belong to
the malformed piece there.
-/

namespace Rollup

/-- A string of bytes. -/
abbrev Bytes := List UInt8

/-- The UTF-8 bytes of a text. -/
def Bytes.ofString (text : String) : Bytes := text.toUTF8.toList

/-- The bytes of characters that are all in the ASCII range; used for the
library's own short literals. -/
def Bytes.ascii (text : String) : Bytes := text.toList.map fun c ↦ c.toNat.toUInt8

namespace Utf8

/-! ## One piece at a time -/

/-- What stands at the front of a byte string. -/
inductive Piece where
  /-- A character, spelled with this many bytes. -/
  | char (c : Char) (length : Nat)
  /-- A malformed piece of this many bytes. -/
  | malformed (length : Nat)
  deriving DecidableEq, Repr

/-- How many bytes the piece takes. -/
def Piece.length : Piece → Nat
  | .char _ n => n
  | .malformed n => n

/-- A continuation byte `10xxxxxx`. -/
def isTail (b : UInt8) : Bool := 0x80 ≤ b && b ≤ 0xBF

/-- The bytes that may follow the lead byte `b` of a longer form.  They are all
continuation bytes, but overlong forms, surrogates and code points beyond
U+10FFFF are ruled out by the second byte already. -/
def isSecond (b second : UInt8) : Bool :=
  if b = 0xE0 then 0xA0 ≤ second && second ≤ 0xBF
  else if b = 0xED then 0x80 ≤ second && second ≤ 0x9F
  else if b = 0xF0 then 0x90 ≤ second && second ≤ 0xBF
  else if b = 0xF4 then 0x80 ≤ second && second ≤ 0x8F
  else isTail second

/-- The payload of a continuation byte, put behind the bits read so far. -/
def extend (bits : Nat) (tail : UInt8) : Nat := bits * 64 + (tail.toNat - 0x80)

/-- What the bytes `b :: rest` start with.  A malformed piece is as long as the
longest start of a well-formed character that it shares, and at least one byte
long. -/
def piece (b : UInt8) (rest : Bytes) : Piece :=
  if b ≤ 0x7F then .char (Char.ofNat b.toNat) 1
  else if b < 0xC2 || 0xF4 < b then .malformed 1
  else match rest with
    | [] => .malformed 1
    | second :: rest =>
      if !isSecond b second then .malformed 1
      else if b ≤ 0xDF then .char (Char.ofNat (extend (b.toNat - 0xC0) second)) 2
      else match rest with
        | [] => .malformed 2
        | third :: rest =>
          if !isTail third then .malformed 2
          else if b ≤ 0xEF then
            .char (Char.ofNat (extend (extend (b.toNat - 0xE0) second) third)) 3
          else match rest with
            | [] => .malformed 3
            | fourth :: _ =>
              if !isTail fourth then .malformed 3
              else .char
                (Char.ofNat (extend (extend (extend (b.toNat - 0xF0) second) third) fourth)) 4

/-- The character at the front and its length in bytes, if there is one. -/
def first? : Bytes → Option (Char × Nat)
  | [] => none
  | b :: rest => match piece b rest with
    | .char c n => some (c, n)
    | .malformed _ => none

/-! ## Whole strings -/

/-- Whether the bytes behind the first `skip`, which belong to a character in
front of them, are UTF-8 to the end. -/
def isTextBehind : (skip : Nat) → Bytes → Bool
  | _, [] => true
  | skip + 1, _ :: rest => isTextBehind skip rest
  | 0, b :: rest => match piece b rest with
    | .char _ n => isTextBehind (n - 1) rest
    | .malformed _ => false

/-- Whether the bytes are UTF-8. -/
def isText (bytes : Bytes) : Bool := isTextBehind 0 bytes

/-- Puts the characters of a byte string behind those in `done`, which is kept
back to front; a malformed piece gives one U+FFFD. -/
def lossyOnto (done : List Char) : Bytes → List Char
  | [] => done.reverse
  | b :: rest =>
    let tail := rest.drop ((piece b rest).length - 1)
    match piece b rest with
    | .char c _ => lossyOnto (c :: done) tail
    | .malformed _ => lossyOnto ('\uFFFD' :: done) tail
  termination_by bytes => bytes.length
  decreasing_by all_goals simp only [List.length_drop, List.length_cons]; omega

/-- The text of a byte string, with U+FFFD where it is no UTF-8. -/
def lossy (bytes : Bytes) : String := String.ofList (lossyOnto [] bytes)

end Utf8

end Rollup
