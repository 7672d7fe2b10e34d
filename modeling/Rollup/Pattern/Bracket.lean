import Rollup.Pattern.Escape

/-!
# Bracketed classes

```text
class := "[" ["^"] "-"* ["]"] set "]"           the first "]" is a member, not the end
set   := items | set ("&&" | "--" | "~~") items
items := (class | "[:" ["^"] name ":]" | member ["-" member])*
```

A class is read with a stack of the classes that are open, innermost first.
Its members are collected at once into a set; an operator waits, with its left
side, for the end of the items on its right.  To find nesting that is too deep,
every class is also measured as the tree that it stands for.
-/

namespace Rollup.Pattern

/-- What combines the two sides of an operator. -/
inductive SetOperator where
  | intersection
  | difference
  | symmetricDifference
  deriving DecidableEq, Repr

def SetOperator.ofChar? : Char → Option SetOperator
  | '&' => some .intersection
  | '-' => some .difference
  | '~' => some .symmetricDifference
  | _ => none

def SetOperator.apply (a b : Unicode.Ranges) : SetOperator → Unicode.Ranges
  | .intersection => Unicode.Ranges.inter a b
  | .difference => Unicode.Ranges.minus a b
  | .symmetricDifference => Unicode.Ranges.symmetricDifference a b

/-- A set and the depth of the tree that describes it. -/
structure Measured where
  members : Unicode.Ranges
  depth : Nat
  deriving DecidableEq, Repr

/-- A class that is not closed yet. -/
structure OpenClass where
  negated : Bool
  /-- The left side of an operator that waits for its right side. -/
  pending : Option (SetOperator × Measured) := none
  /-- What the items read since then cover. -/
  members : Unicode.Ranges := []
  /-- How many items these are. -/
  count : Nat := 0
  /-- The depth of the deepest of them. -/
  deepest : Nat := 0
  deriving DecidableEq, Repr

namespace OpenClass

def add (current : OpenClass) (item : Measured) : OpenClass :=
  { current with
    members := current.members ++ item.members
    count := current.count + 1
    deepest := max current.deepest item.depth }

/-- What was read so far, with the operator that waits applied to it. -/
def value (flags : Flags) (current : OpenClass) : Measured :=
  let items := Unicode.Ranges.ofList current.members
  let depth := if current.count < 2 then current.deepest else current.deepest + 1
  match current.pending with
  | none => ⟨items, depth⟩
  | some (operator, left) =>
    ⟨operator.apply (flags.fold left.members) (flags.fold items), max left.depth depth + 1⟩

/-- Makes an operator wait for its right side. -/
def await (flags : Flags) (current : OpenClass) (operator : SetOperator) : OpenClass :=
  { negated := current.negated, pending := some (operator, current.value flags) }

/-- The set of a class that is closed. -/
def close (flags : Flags) (current : OpenClass) : Measured :=
  let value := current.value flags
  let members := flags.fold value.members
  ⟨if current.negated then flags.complement members else members, value.depth + 1⟩

end OpenClass

/-! ## Items -/

/-- The code of a literal as a member of a class.  A class of bytes has no
other members. -/
def memberCode (flags : Flags) (code : Nat) (isByte : Bool) : Except Fault Nat :=
  if flags.unicode || isByte || code < 0x80 then .ok code else .error .unicodeNotAllowed

/-- Reads a character or an escape. -/
def classAtom (flags : Flags) : List Char → Except Fault (Atom × List Char)
  | [] => .error .classUnclosed
  | '\\' :: rest => escape flags rest
  | c :: rest => .ok (.literal c.toNat false, rest)

/-- What an atom is as a member of a class. -/
def memberSet (flags : Flags) : Atom → Except Fault Unicode.Ranges
  | .literal code isByte => (memberCode flags code isByte).map fun code ↦ [(code, code)]
  | .set members => .ok members
  | .anchor _ => .error .classEscape

/-- What an atom is as an end of a range. -/
def rangeEnd (flags : Flags) : Atom → Except Fault Nat
  | .literal code isByte => memberCode flags code isByte
  | _ => .error .classRangeEnd

/-- The character that decides what a hyphen in front of the text means.  In
the spaced form this is the next one that is not blank; the mark of a comment is
passed over like a blank, but only once, and what the comment says is not. -/
def behindHyphen? (flags : Flags) (text : List Char) : Option Char :=
  if flags.spaced then
    match text.dropWhile isBlank with
    | '#' :: rest => (rest.dropWhile isBlank).head?
    | rest => rest.head?
  else text.head?

/-- Whether the text behind a hyphen makes the hyphen a member of the class, or
half of an operator. -/
def isNoRange (flags : Flags) (text : List Char) : Bool :=
  let next := behindHyphen? flags text
  next = some ']' || next = some '-'

/-- Reads a single member or a range. -/
def member (flags : Flags) (text : List Char) : Except Fault (Unicode.Ranges × List Char) := do
  let (first, rest) ← classAtom flags text
  match flags.skip rest with
  | [] => .error .classUnclosed
  | '-' :: behind =>
    if isNoRange flags behind then return (← memberSet flags first, '-' :: behind)
    else
      let (last, rest) ← classAtom flags (flags.skip behind)
      let low ← rangeEnd flags first
      let high ← rangeEnd flags last
      if low ≤ high then return ([(low, high)], rest) else .error .classRange
  | rest => return (← memberSet flags first, rest)

/-- The sets of ASCII characters that have a name between colons. -/
def asciiSet? : String → Option Unicode.Ranges
  | "alnum" => some [(0x30, 0x39), (0x41, 0x5A), (0x61, 0x7A)]
  | "alpha" => some [(0x41, 0x5A), (0x61, 0x7A)]
  | "ascii" => some [(0x00, 0x7F)]
  | "blank" => some [(0x09, 0x09), (0x20, 0x20)]
  | "cntrl" => some [(0x00, 0x1F), (0x7F, 0x7F)]
  | "digit" => some [(0x30, 0x39)]
  | "graph" => some [(0x21, 0x7E)]
  | "lower" => some [(0x61, 0x7A)]
  | "print" => some [(0x20, 0x7E)]
  | "punct" => some [(0x21, 0x2F), (0x3A, 0x40), (0x5B, 0x60), (0x7B, 0x7E)]
  | "space" => some [(0x09, 0x0D), (0x20, 0x20)]
  | "upper" => some [(0x41, 0x5A)]
  | "word" => some [(0x30, 0x39), (0x41, 0x5A), (0x5F, 0x5F), (0x61, 0x7A)]
  | "xdigit" => some [(0x30, 0x39), (0x41, 0x46), (0x61, 0x66)]
  | _ => none

/-- Reads a name between colons, behind an opening bracket and a colon.  What
does not have this form is no error, but a class. -/
def namedItem? (flags : Flags) (text : List Char) : Option (Unicode.Ranges × List Char) :=
  let negated := text.head? = some '^'
  let text := if negated then text.tail else text
  let name := text.takeWhile (· ≠ ':')
  match text.dropWhile (· ≠ ':') with
  | ':' :: ']' :: rest => (asciiSet? (String.ofList name)).map fun members ↦
    let members := flags.fold members
    (if negated then flags.complement members else members, rest)
  | _ => none

/-! ## Classes -/

/-- Reads the hyphens at the start of a class. -/
def leadingHyphens (flags : Flags) : Nat → OpenClass → List Char → OpenClass × List Char
  | 0, current, text => (current, text)
  | n + 1, current, text => match flags.skip text with
    | '-' :: rest => leadingHyphens flags n (current.add ⟨[(0x2D, 0x2D)], 0⟩) rest
    | text => (current, text)

/-- Reads the start of a class, behind its bracket. -/
def openClass (flags : Flags) (text : List Char) : OpenClass × List Char :=
  let text := flags.skip text
  let negated := text.head? = some '^'
  let text := if negated then text.tail else text
  let (current, text) := leadingHyphens flags (text.length + 1) { negated } text
  match flags.skip text with
  | ']' :: rest =>
    if current.count = 0 then (current.add ⟨[(0x5D, 0x5D)], 0⟩, rest) else (current, ']' :: rest)
  | text => (current, text)

/-- Reads up to the end of the outermost class.  Every step takes a character,
so the length of the text is enough for the number of steps. -/
def classFrom (flags : Flags) : Nat → List OpenClass → OpenClass → List Char →
    Except Fault (Measured × List Char)
  | 0, _, _, _ => .error .classUnclosed
  | steps + 1, outer, current, text => match flags.skip text with
    | [] => .error .classUnclosed
    | ']' :: rest =>
      let closed := current.close flags
      match outer with
      | [] => .ok (closed, rest)
      | parent :: outer => classFrom flags steps outer (parent.add closed) rest
    | '[' :: ':' :: rest =>
      match namedItem? flags rest with
      | some (members, rest) => classFrom flags steps outer (current.add ⟨members, 0⟩) rest
      | none =>
        let (inner, rest) := openClass flags (':' :: rest)
        classFrom flags steps (current :: outer) inner rest
    | '[' :: rest =>
      let (inner, rest) := openClass flags rest
      classFrom flags steps (current :: outer) inner rest
    | c :: rest =>
      match if rest.head? = some c then SetOperator.ofChar? c else none with
      | some operator => classFrom flags steps outer (current.await flags operator) rest.tail
      | none => do
        let (members, rest) ← member flags (c :: rest)
        classFrom flags steps outer (current.add ⟨members, 0⟩) rest

/-- Reads a class, behind its bracket. -/
def bracketed (flags : Flags) (text : List Char) : Except Fault (Measured × List Char) :=
  let (current, rest) := openClass flags text
  classFrom flags (rest.length + 1) [] current rest

end Rollup.Pattern
