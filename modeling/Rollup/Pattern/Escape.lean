import Rollup.Pattern.Flags

/-!
# Escapes

A backslash gives the character behind it another meaning, or takes its special
meaning away.  What an escape stands for is an `Atom`; in a bracketed class and
outside of one, it is put to different uses.

| Escape | Atom |
|---|---|
| `\n`, `\t`, and so on | the control character |
| `\x41`, `\u0041`, `\U00000041`, also in braces | the character with this code point |
| `\d`, `\s`, `\w` | digits, white space, word characters |
| `\p` with a name in braces, or with one letter | a set with a name |
| `\D`, `\S`, `\W`, `\P` | the complement of such a set |
| `\A`, `\z`, `\b`, `\B`, and `\b` with a name in braces | an anchor |
| a backslash and a punctuation mark | that mark |
-/

namespace Rollup.Pattern

/-- What a single character or escape of a pattern stands for. -/
inductive Atom where
  /-- A character.  It is also a byte if it was written with two digits. -/
  | literal (code : Nat) (isByte : Bool)
  /-- A set of characters, or of bytes if the pattern is about bytes. -/
  | set (members : Unicode.Ranges)
  | anchor (a : Anchor)
  deriving DecidableEq, Repr

/-! ## Code points in hexadecimal -/

def hexDigit? (c : Char) : Option Nat :=
  if c.isDigit then some (c.toNat - '0'.toNat)
  else if 'a' ≤ c && c ≤ 'f' then some (c.toNat - 'a'.toNat + 10)
  else if 'A' ≤ c && c ≤ 'F' then some (c.toNat - 'A'.toNat + 10)
  else none

/-- A number that has to be the code point of a character. -/
def codePoint (value : Nat) : Except Fault Nat :=
  if value < 0xD800 || (0xDFFF < value && value ≤ 0x10FFFF) then .ok value
  else .error .escapeHexValue

/-- Reads so many hexadecimal digits behind those that gave `value`. -/
def fixedHex (flags : Flags) : Nat → Nat → List Char → Except Fault (Nat × List Char)
  | 0, value, text => .ok (value, text)
  | count + 1, value, text => match flags.skip text with
    | [] => .error .escapeUnfinished
    | c :: rest => match hexDigit? c with
      | none => .error .escapeHexDigit
      | some d => fixedHex flags count (16 * value + d) rest

/-- The number that hexadecimal digits stand for. -/
def hexValue (digits : List Char) : Except Fault Nat :=
  if digits.isEmpty then .error .escapeHexEmpty
  else digits.foldlM (fun value c ↦ match hexDigit? c with
    | none => .error .escapeHexDigit
    | some d => .ok (16 * value + d)) 0

/-- Reads a code point of so many digits, or of any number of them in braces. -/
def hexLiteral (flags : Flags) (count : Nat) (text : List Char) :
    Except Fault (Atom × List Char) :=
  match flags.skip text with
  | [] => .error .escapeUnfinished
  | '\x7b' :: rest => match flags.braced rest with
    | none => .error .escapeUnfinished
    | some (digits, rest) => do
      let code ← codePoint (← hexValue digits)
      return (.literal code false, rest)
  | c :: rest => do
    let (value, rest) ← fixedHex flags count 0 (c :: rest)
    let code ← codePoint value
    return (.literal code (count = 2), rest)

/-! ## Sets with a name -/

/-- Cuts a text in two at the first place where `mark` stands. -/
def cutAt? (mark : List Char) : List Char → Option (List Char × List Char)
  | [] => none
  | c :: rest =>
    if mark.isPrefixOf (c :: rest) then some ([], (c :: rest).drop mark.length)
    else (cutAt? mark rest).map fun (left, right) ↦ (c :: left, right)

/-- The set that a name stands for, which may be that of a property and of a
value, and whether its complement is meant, which the sign between the two may
say. -/
def namedSet? (name : List Char) : Option (Unicode.Ranges × Bool) :=
  match cutAt? ['!', '='] name with
  | some (property, value) => (Unicode.valueSet? property value).map (·, true)
  | none => match cutAt? [':'] name <|> cutAt? ['='] name with
    | some (property, value) => (Unicode.valueSet? property value).map (·, false)
    | none => (Unicode.set? name).map (·, false)

/-- Reads the name of a set, of one letter or in braces. -/
def setName (flags : Flags) (text : List Char) : Except Fault (List Char × List Char) :=
  match flags.skip text with
  | [] => .error .escapeUnfinished
  | '\x7b' :: rest => match flags.braced rest with
    | none => .error .escapeUnfinished
    | some named => .ok named
  | '\\' :: _ => .error .propertyInvalid
  | c :: rest => .ok ([c], rest)

/-- Reads the name of a set and looks the set up.  A complement is taken after
case is folded, and a complement of a complement is the set itself. -/
def namedSet (flags : Flags) (negated : Bool) (text : List Char) :
    Except Fault (Atom × List Char) := do
  let (name, rest) ← setName flags text
  if !flags.unicode then .error .unicodeNotAllowed
  match namedSet? name with
  | none => .error .propertyUnknown
  | some (members, differs) =>
    let members := flags.fold members
    return (.set (if negated ^^ differs then flags.complement members else members), rest)

/-! ## Sets with a letter -/

/-- The decimal digits. -/
def digitSet (flags : Flags) : Unicode.Ranges :=
  if flags.unicode then Unicode.digits else [(0x30, 0x39)]

/-- White space. -/
def spaceSet (flags : Flags) : Unicode.Ranges :=
  if flags.unicode then Unicode.whiteSpace else [(0x09, 0x0D), (0x20, 0x20)]

/-- Word characters. -/
def wordSet (flags : Flags) : Unicode.Ranges :=
  if flags.unicode then Unicode.wordCharacters
  else [(0x30, 0x39), (0x41, 0x5A), (0x5F, 0x5F), (0x61, 0x7A)]

/-- The set that a letter stands for. -/
def letterSet? (flags : Flags) : Char → Option Unicode.Ranges
  | 'd' => some (digitSet flags)
  | 's' => some (spaceSet flags)
  | 'w' => some (wordSet flags)
  | 'D' => some (flags.complement (digitSet flags))
  | 'S' => some (flags.complement (spaceSet flags))
  | 'W' => some (flags.complement (wordSet flags))
  | _ => none

/-! ## Anchors -/

def wordEdge? : String → Option WordEdge
  | "start" => some .start
  | "end" => some .stop
  | "start-half" => some .startHalf
  | "end-half" => some .stopHalf
  | _ => none

/-- Whether a name in braces can start with this character.  With any other one
the braces are those of a counted repetition. -/
def startsEdgeName (c : Char) : Bool := c.isAlpha || c = '-'

/-- Reads which edge of a word is meant, behind the letter `b`. -/
def wordBoundary (flags : Flags) (text : List Char) : Except Fault (WordEdge × List Char) :=
  match text with
  | '\x7b' :: rest => match flags.skip rest with
    | [] => .error .boundaryUnknown
    | c :: _ =>
      if !startsEdgeName c then .ok (.boundary, text)
      else match flags.braced rest with
        | none => .error .boundaryUnknown
        | some (name, rest) => match wordEdge? (String.ofList name) with
          | none => .error .boundaryUnknown
          | some edge => .ok (edge, rest)
  | text => .ok (.boundary, text)

/-! ## All escapes -/

/-- The control characters that have a letter. -/
def control? : Char → Option Nat
  | 'a' => some 0x07
  | 't' => some 0x09
  | 'n' => some 0x0A
  | 'v' => some 0x0B
  | 'f' => some 0x0C
  | 'r' => some 0x0D
  | _ => none

/-- Whether a backslash in front of the character makes it stand for itself. -/
def isMark (c : Char) : Bool := c.toNat < 0x80 && !c.isAlphanum && c ≠ '<' && c ≠ '>'

/-- Reads an escape, behind the backslash. -/
def escape (flags : Flags) : List Char → Except Fault (Atom × List Char)
  | [] => .error .escapeUnfinished
  | c :: rest =>
    if c.isDigit then .error .backreference
    else if isMark c then .ok (.literal c.toNat false, rest)
    else match control? c, letterSet? flags c with
      | some code, _ => .ok (.literal code false, rest)
      | none, some members => .ok (.set members, rest)
      | none, none => match c with
        | 'x' => hexLiteral flags 2 rest
        | 'u' => hexLiteral flags 4 rest
        | 'U' => hexLiteral flags 8 rest
        | 'p' => namedSet flags false rest
        | 'P' => namedSet flags true rest
        | 'A' => .ok (.anchor .textStart, rest)
        | 'z' => .ok (.anchor .textEnd, rest)
        | 'b' => do
          let (edge, rest) ← wordBoundary flags rest
          return (.anchor (.word flags.unicode edge), rest)
        | 'B' => .ok (.anchor (.word flags.unicode .noBoundary), rest)
        | '<' => .ok (.anchor (.word flags.unicode .start), rest)
        | '>' => .ok (.anchor (.word flags.unicode .stop), rest)
        | _ => .error .escapeUnknown

end Rollup.Pattern
