import Rollup.Pattern.Fault
import Rollup.Pattern.Reduced
import Rollup.Text.Blank
import Rollup.Unicode.CaseFold

/-!
# Flags

Flags change how the rest of a pattern is read, up to the end of the group in
which they are set.

| Flag | When set |
|---|---|
| `i` | letters match in either case |
| `m` | `^` and `$` match at line endings too |
| `s` | `.` matches a line feed too |
| `u` | the pattern is about characters, not bytes; this one is set at first |
| `R` | a carriage return counts as a line ending too |
| `x` | blanks and comments in the pattern are skipped |
| `U` | repetitions prefer short matches; of no concern to whether one exists |

With them come the readings that depend on them: what is skipped, and what a
set of characters stands for.
-/

namespace Rollup.Pattern

inductive Flag where
  | ignoreCase
  | multipleLines
  | dotAll
  | swapGreed
  | unicode
  | returns
  | spaced
  deriving DecidableEq, Repr

def Flag.ofChar? : Char → Option Flag
  | 'i' => some .ignoreCase
  | 'm' => some .multipleLines
  | 's' => some .dotAll
  | 'U' => some .swapGreed
  | 'u' => some .unicode
  | 'R' => some .returns
  | 'x' => some .spaced
  | _ => none

/-- Which flags are set. -/
structure Flags where
  ignoreCase : Bool := false
  multipleLines : Bool := false
  dotAll : Bool := false
  swapGreed : Bool := false
  unicode : Bool := true
  returns : Bool := false
  spaced : Bool := false
  deriving DecidableEq, Repr

namespace Flags

def set (flags : Flags) (value : Bool) : Flag → Flags
  | .ignoreCase => { flags with ignoreCase := value }
  | .multipleLines => { flags with multipleLines := value }
  | .dotAll => { flags with dotAll := value }
  | .swapGreed => { flags with swapGreed := value }
  | .unicode => { flags with unicode := value }
  | .returns => { flags with returns := value }
  | .spaced => { flags with spaced := value }

/-- Changes some flags. -/
def update (flags : Flags) (changes : List (Flag × Bool)) : Flags :=
  changes.foldl (fun flags change ↦ flags.set change.2 change.1) flags

/-- What the flags in a group's head change, whether the head ends the group
too, and the text behind it.  `negated` says whether a `-` was read, and
`dangling` whether it was read last; `changes` are in reverse order. -/
def readOnto (changes : List (Flag × Bool)) (negated dangling : Bool) :
    List Char → Except Fault (List (Flag × Bool) × Bool × List Char)
  | [] => .error .flagUnfinished
  | c :: rest =>
    if c = ':' || c = ')' then
      if dangling then .error .flagDangling else .ok (changes.reverse, c = ')', rest)
    else if c = '-' then
      if negated then .error .flagRepeated else readOnto changes true true rest
    else match Flag.ofChar? c with
      | none => .error .flagUnknown
      | some flag =>
        if changes.any fun change ↦ change.1 = flag then .error .flagRepeated
        else readOnto ((flag, !negated) :: changes) negated false rest

/-! ## Blanks and comments -/

/-- The text behind blanks and comments.  A comment reaches from `#` to the end
of the line. -/
def skipFrom (inComment : Bool) : List Char → List Char
  | [] => []
  | c :: rest =>
    if inComment then skipFrom (c ≠ '\n') rest
    else if isBlank c then skipFrom false rest
    else if c = '#' then skipFrom true rest
    else c :: rest

/-- The text behind what the flags allow to skip. -/
def skip (flags : Flags) (text : List Char) : List Char :=
  if flags.spaced then skipFrom false text else text

/-- The characters up to a closing brace, less what the flags allow to skip,
and the text behind the brace, if there is one. -/
def bracedFrom (flags : Flags) (inComment : Bool) (done : List Char) :
    List Char → Option (List Char × List Char)
  | [] => none
  | c :: rest =>
    if inComment then bracedFrom flags (c ≠ '\n') done rest
    else if flags.spaced && isBlank c then bracedFrom flags false done rest
    else if flags.spaced && c = '#' then bracedFrom flags true done rest
    else if c = '\x7d' then some (done.reverse, rest)
    else bracedFrom flags false (c :: done) rest

def braced (flags : Flags) (text : List Char) : Option (List Char × List Char) :=
  bracedFrom flags false [] text

/-- The decimal digits in front, less what the flags allow to skip between and
behind them, and the text that follows. -/
def digitsFrom (flags : Flags) (inComment : Bool) (done : List Char) :
    List Char → List Char × List Char
  | [] => (done.reverse, [])
  | c :: rest =>
    if inComment then digitsFrom flags (c ≠ '\n') done rest
    else if flags.spaced && isBlank c then digitsFrom flags false done rest
    else if flags.spaced && c = '#' then digitsFrom flags true done rest
    else if c.isDigit then digitsFrom flags false (c :: done) rest
    else (done.reverse, c :: rest)

/-! ## Sets -/

/-- What is not in a set of characters or bytes. -/
def complement (flags : Flags) (set : Unicode.Ranges) : Unicode.Ranges :=
  if flags.unicode then set.complement else set.byteComplement

/-- A set with the other cases of its letters, if case is to be ignored. -/
def fold (flags : Flags) (set : Unicode.Ranges) : Unicode.Ranges :=
  if !flags.ignoreCase then set
  else if flags.unicode then set.closeUnderCase
  else set.closeUnderAsciiCase

/-- The pattern that matches one member of a set. -/
def oneOf (flags : Flags) (set : Unicode.Ranges) : Pattern :=
  if flags.unicode then oneCharacter set else oneByte set

/-- The pattern of a dot. -/
def dot (flags : Flags) : Pattern :=
  flags.oneOf <|
    if flags.dotAll then flags.complement []
    else if flags.returns then flags.complement [(0x0A, 0x0A), (0x0D, 0x0D)]
    else flags.complement [(0x0A, 0x0A)]

/-- The anchor of a caret. -/
def caret (flags : Flags) : Anchor :=
  if flags.multipleLines then .lineStart flags.returns else .textStart

/-- The anchor of a dollar sign. -/
def dollar (flags : Flags) : Anchor :=
  if flags.multipleLines then .lineEnd flags.returns else .textEnd

end Flags

end Rollup.Pattern
