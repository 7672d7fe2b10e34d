import Rollup.Pattern.Bracket
import Rollup.Pattern.Weight

/-!
# Reading patterns

```text
pattern    := branch ("|" branch)*
branch     := (item repetition*)*
item       := character | "." | "^" | "$" | escape | class | group
group      := "(" [ "?" ["P"] "<" name ">" ] pattern ")"
            | "(?" flags ":" pattern ")" | "(?" flags ")"
repetition := ("?" | "*" | "+" | "{" least ["," [most]] "}") ["?"]
```

A pattern is read from front to back, with a stack of the groups that are open,
innermost first.  Flags in force are kept beside the stack; a group remembers
those in force outside of it.
-/

namespace Rollup.Pattern

/-- A pattern with the depth of the tree that describes it. -/
structure Piece where
  pattern : Pattern
  depth : Nat := 0
  /-- Whether a repetition may follow. -/
  repeatable : Bool := true

/-- A group that is not closed yet. -/
structure OpenGroup where
  /-- The flags in force outside. -/
  outside : Flags
  /-- Whether the group is one that can be referred to. -/
  marked : Bool
  /-- The branches before the current one, back to front. -/
  branches : List Piece := []
  /-- The current branch, back to front. -/
  items : List Piece := []

/-- Where reading has come to. -/
structure Reading where
  flags : Flags := {}
  /-- The groups around the innermost one. -/
  outer : List OpenGroup := []
  /-- The innermost group, or the whole pattern. -/
  inner : OpenGroup := { outside := {}, marked := false }
  /-- The names of groups seen so far. -/
  names : List (List Char) := []

/-! ## Trees -/

/-- The depth of the deepest of some pieces. -/
def deepest (pieces : List Piece) : Nat := pieces.foldl (fun d p ↦ max d p.depth) 0

/-- The pieces, given back to front, one behind the other. -/
def pieceOfItems : List Piece → Piece
  | [] => { pattern := .empty }
  | [piece] => piece
  | items =>
    { pattern := inSequence (items.reverse.map Piece.pattern), depth := deepest items + 1 }

/-- One of some pieces, given back to front. -/
def pieceOfBranches (branches : List Piece) : Piece :=
  { pattern := inChoice (branches.reverse.map Piece.pattern), depth := deepest branches + 1 }

/-- What a group or the whole pattern consists of. -/
def OpenGroup.content (group : OpenGroup) : Piece :=
  let last := pieceOfItems group.items
  if group.branches.isEmpty then last else pieceOfBranches (last :: group.branches)

/-- The group as a piece of the pattern around it. -/
def OpenGroup.close (group : OpenGroup) : Piece :=
  let content := group.content
  { pattern := if group.marked then .group content.pattern else content.pattern
    depth := content.depth + 1 }

namespace Reading

/-- Puts a piece behind the current branch. -/
def add (r : Reading) (piece : Piece) : Reading :=
  { r with inner := { r.inner with items := piece :: r.inner.items } }

/-- Starts a new branch. -/
def branch (r : Reading) : Reading :=
  let branches := pieceOfItems r.inner.items :: r.inner.branches
  { r with inner := { r.inner with branches, items := [] } }

/-- Opens a group in which other flags may be in force. -/
def openGroup (r : Reading) (flags : Flags) (marked : Bool) : Reading :=
  { r with
    flags
    outer := r.inner :: r.outer
    inner := { outside := r.flags, marked } }

/-- Closes the innermost group. -/
def closeGroup (r : Reading) : Except Fault Reading :=
  match r.outer with
  | [] => .error .groupUnopened
  | parent :: outer =>
    .ok (Reading.add { r with flags := r.inner.outside, outer, inner := parent } r.inner.close)

/-- Repeats the last item of the current branch. -/
def repeatLast (r : Reading) (least : Nat) (most : Option Nat) (lazy : Bool) :
    Except Fault Reading :=
  match r.inner.items with
  | [] => .error .nothingToRepeat
  | item :: items =>
    if !item.repeatable then .error .nothingToRepeat
    else
      let pattern := repeatBetween item.pattern least most lazy
      let piece : Piece := { pattern, depth := item.depth + 1 }
      .ok { r with inner := { r.inner with items := piece :: items } }

end Reading

/-! ## Literals and escapes -/

/-- The pattern of a single character. -/
def single (flags : Flags) (code : Nat) (isByte : Bool) : Pattern :=
  if isByte && !flags.unicode && 0x80 ≤ code then oneByte [(code, code)]
  else oneCharacter (flags.fold [(code, code)])

/-- The pattern of an atom. -/
def Atom.pattern (flags : Flags) : Atom → Pattern
  | .literal code isByte => single flags code isByte
  | .set members => flags.oneOf members
  | .anchor a => .anchor a

/-! ## Counts -/

/-- Reads a number and the blanks around it. -/
def count (flags : Flags) (text : List Char) : Except Fault (Nat × List Char) :=
  let (digits, rest) := flags.digitsFrom false [] (text.dropWhile isBlank)
  if digits.isEmpty then .error .countMissing
  else
    let n := Nat.ofDigitChars 10 digits 0
    if n < 1 <<< 32 then .ok (n, rest.dropWhile isBlank) else .error .countTooLarge

/-- Reads the bounds of a counted repetition, behind the opening brace and up to
the closing one. -/
def bounds (flags : Flags) (text : List Char) : Except Fault (Nat × Option Nat × List Char) := do
  let (least, rest) ← count flags (flags.skip text)
  match rest with
  | '\x7d' :: rest => return (least, some least, rest)
  | ',' :: rest => match flags.skip rest with
    | '\x7d' :: rest => return (least, none, rest)
    | text =>
      let (most, rest) ← count flags text
      match rest with
      | '\x7d' :: rest =>
        if least ≤ most then return (least, some most, rest) else .error .countReversed
      | _ => .error .countUnclosed
  | _ => .error .countUnclosed

/-- Repeats the last item.  A question mark behind the bounds says which of few
and many repetitions are preferred; the text behind it is left. -/
def repetition (r : Reading) (least : Nat) (most : Option Nat) (text : List Char) :
    Except Fault (Reading × List Char) :=
  let (marked, rest) := match text with
    | '?' :: rest => (true, rest)
    | rest => (false, rest)
  (r.repeatLast least most (marked ^^ r.flags.swapGreed)).map (·, rest)

/-! ## Groups -/

def letterTable : Array (Nat × Nat) := Unicode.letters.toArray

def numberTable : Array (Nat × Nat) := Unicode.lettersAndNumbers.toArray

/-- Whether the name of a group can start with the character. -/
def startsName (c : Char) : Bool :=
  c = '_' || Unicode.Ranges.search letterTable c.toNat 0 letterTable.size

/-- Whether the name of a group can go on with the character. -/
def continuesName (c : Char) : Bool :=
  c = '_' || c = '.' || c = '[' || c = ']' ||
    Unicode.Ranges.search numberTable c.toNat 0 numberTable.size

def isGroupName : List Char → Bool
  | [] => false
  | c :: rest => startsName c && rest.all continuesName

/-- Reads the name of a group and opens it. -/
def namedGroup (r : Reading) (text : List Char) : Except Fault (Reading × List Char) :=
  let name := text.takeWhile (· ≠ '>')
  match text.dropWhile (· ≠ '>') with
  | [] => .error .groupNameInvalid
  | _ :: rest =>
    if !isGroupName name then .error .groupNameInvalid
    else if r.names.contains name then .error .groupNameRepeated
    else .ok (Reading.openGroup { r with names := name :: r.names } r.flags true, rest)

/-- Reads flags, which hold for a group that starts here or for the rest of the
group around them. -/
def flagged (r : Reading) (text : List Char) : Except Fault (Reading × List Char) := do
  if text.isEmpty then .error .groupUnclosed
  let (changes, whole, rest) ← Flags.readOnto [] false false text
  let flags := r.flags.update changes
  if !whole then return (r.openGroup flags false, rest)
  else if changes.isEmpty then .error .nothingToRepeat
  else return (Reading.add { r with flags } { pattern := .empty, repeatable := false }, rest)

/-- Reads the head of a group, behind its parenthesis. -/
def groupHead (r : Reading) (text : List Char) : Except Fault (Reading × List Char) :=
  match r.flags.skip text with
  | '?' :: '=' :: _ | '?' :: '!' :: _ | '?' :: '<' :: '=' :: _ | '?' :: '<' :: '!' :: _ =>
    .error .lookAround
  | '?' :: 'P' :: '<' :: rest | '?' :: '<' :: rest => namedGroup r rest
  | '?' :: rest => flagged r rest
  | rest => .ok (r.openGroup r.flags true, rest)

/-! ## Whole patterns -/

/-- Reads what starts with the character `c`. -/
def readStep (r : Reading) (c : Char) (rest : List Char) : Except Fault (Reading × List Char) :=
  match c with
  | '(' => groupHead r rest
  | ')' => do return (← r.closeGroup, rest)
  | '|' => .ok (r.branch, rest)
  | '[' => do
    let (measured, rest) ← bracketed r.flags rest
    return (r.add { pattern := r.flags.oneOf measured.members, depth := measured.depth }, rest)
  | '?' => repetition r 0 (some 1) rest
  | '*' => repetition r 0 none rest
  | '+' => repetition r 1 none rest
  | '\x7b' => do
    let (least, most, rest) ← bounds r.flags rest
    repetition r least most (r.flags.skip rest)
  | '.' => .ok (r.add { pattern := r.flags.dot }, rest)
  | '^' => .ok (r.add { pattern := .anchor r.flags.caret }, rest)
  | '$' => .ok (r.add { pattern := .anchor r.flags.dollar }, rest)
  | '\\' => do
    let (atom, rest) ← escape r.flags rest
    return (r.add { pattern := atom.pattern r.flags }, rest)
  | c => .ok (r.add { pattern := single r.flags c.toNat false }, rest)

/-- Reads the text to its end.  Every step takes a character, so the length of
the text is enough for the number of steps. -/
def readFrom : Nat → Reading → List Char → Except Fault Reading
  | 0, r, _ => .ok r
  | steps + 1, r, text => match r.flags.skip text with
    | [] => .ok r
    | c :: rest => do
      let (r, rest) ← readStep r c rest
      readFrom steps r rest

/-- How deep the tree of a pattern may be. -/
def deepestAllowed : Nat := 250

/-- Reads a pattern. -/
def parse (text : String) : Except Fault Pattern := do
  let r ← readFrom text.length {} text.toList
  if !r.outer.isEmpty then .error .groupUnclosed
  let content := r.inner.content
  if deepestAllowed < content.depth then .error .tooDeep
  if content.pattern.isTooHeavy then .error .tooLarge
  return content.pattern

/-- What a pattern says about byte strings: whether it matches a piece of one. -/
def compile (text : String) : Except Fault (Bytes → Bool) := (parse text).map occursIn

end Rollup.Pattern
