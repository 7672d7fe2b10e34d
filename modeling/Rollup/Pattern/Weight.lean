import Rollup.Pattern.Reduced

/-!
# The weight of a pattern

Counted repetitions make it easy to write a short pattern that stands for a
huge one.  Patterns are therefore weighed, and one that weighs more than
`heaviest` is refused.  The weight is the memory, in bytes, of an automaton that
has states for every byte to be read, written out as often as the pattern asks
for it.

There are two such automata, one for each direction of reading, and neither may
be too heavy.  Only the forward one records where groups start and end.  A set
of characters is a net of states in both: backward, states are shared where
encodings start alike, and forward, where they start alike or end alike.  What
can be shared is looked up in a memo with a fixed number of places, where a new
entry displaces an old one.

An automaton is not built, but a `Draft` counts what it would consist of.
-/

namespace Rollup.Pattern

/-! ## Drafts -/

/-- Ten mebibytes. -/
def heaviest : Nat := 10 * (1 <<< 20)

/-- The memory of a state, less what its list of successors takes. -/
def stateWeight : Nat := 32

/-- An automaton under construction.  States are numbered from zero. -/
structure Draft where
  states : Nat := 0
  /-- The memory of the lists of successors. -/
  lists : Nat := 0
  /-- Keys of states that may be shared, with the numbers of the states. -/
  memo : Array (List Nat × Nat)

namespace Draft

def weight (d : Draft) : Nat := stateWeight * d.states + d.lists

/-- Adds states and memory for lists, unless this is too much. -/
def grow (d : Draft) (states lists : Nat) : Option Draft :=
  let d := { d with states := d.states + states, lists := d.lists + lists }
  if heaviest < d.weight then none else some d

/-- The memory that an entry takes in a list of successors. -/
def link (count : Nat) : Nat := 4 * count

/-- The memory that is needed to go on from a state.  Only a fork has a list. -/
def linkFrom (isFork : Bool) : Nat := if isFork then link 1 else 0

/-- The memory of a list of ranges of bytes with their successors. -/
def rangeList (count : Nat) : Nat := 8 * count

/-! ### Sharing -/

/-- The place of a key in a memo: the bytes of a hash by multiplication and
exclusive or, reduced to the number of places. -/
def placeOf (key : List Nat) (places : Nat) : Nat :=
  let hash := key.foldl (fun (h : UInt64) n ↦ (h ^^^ n.toUInt64) * 1099511628211)
    14695981039346656037
  hash.toNat % places

/-- A state with this key: the one that the memo knows, if it is not older than
`first`, or a new one with a list of this size. -/
def shared (d : Draft) (first : Nat) (key : List Nat) (list : Nat) : Option (Draft × Nat) :=
  let place := placeOf key d.memo.size
  let (known, state) := d.memo.getD place ([], 0)
  if first ≤ state && known = key then some (d, state)
  else
    let state := d.states
    match d.grow 1 list with
    | none => none
    | some { states, lists, memo } =>
      some ({ states, lists, memo := memo.setIfInBounds place (key, state) }, state)

end Draft

/-! ## Sets of characters -/

/-- Writes the numbers from `low` to `high` as few sequences of ranges of
digits, to the base 64 and with so many digits behind the first. -/
def digitRanges : Nat → Nat → Nat → List (List (Nat × Nat))
  | 0, low, high => [[(low, high)]]
  | digits + 1, low, high =>
    let unit := Nat.pow 64 (digits + 1)
    let first := low / unit
    let last := high / unit
    if first = last then
      (digitRanges digits (low % unit) (high % unit)).map ((first, first) :: ·)
    else
      let whole := List.replicate (digits + 1) (0, 63)
      let left := if low % unit = 0 then []
        else (digitRanges digits (low % unit) (unit - 1)).map ((first, first) :: ·)
      let right := if high % unit = unit - 1 then []
        else (digitRanges digits 0 (high % unit)).map ((last, last) :: ·)
      let start := if low % unit = 0 then first else first + 1
      let stop := if high % unit = unit - 1 then last + 1 else last
      let middle := if start < stop then [(start, stop - 1) :: whole] else []
      left ++ middle ++ right

/-- The code points by the length of their encoding less one, with what is added
to the first digit. -/
def encodingForms : List (Nat × Nat × Unicode.Ranges) :=
  [(0, 0, [(0, 0x7F)]), (1, 0xC0, [(0x80, 0x7FF)]),
    (2, 0xE0, [(0x800, 0xD7FF), (0xE000, 0xFFFF)]), (3, 0xF0, [(0x10000, 0x10FFFF)])]

/-- The ranges of bytes for a sequence of ranges of digits. -/
def byteRanges (lead : Nat) : List (Nat × Nat) → List (Nat × Nat)
  | [] => []
  | first :: rest =>
    (lead + first.1, lead + first.2) :: rest.map fun range ↦ (0x80 + range.1, 0x80 + range.2)

/-- The encodings of the characters of a set, as sequences of ranges of bytes in
increasing order. -/
def encodings (set : Unicode.Ranges) : List (List (Nat × Nat)) :=
  encodingForms.flatMap fun (digits, lead, form) ↦
    (Unicode.Ranges.inter set form).flatMap fun range ↦
      (digitRanges digits range.1 range.2).map (byteRanges lead)

namespace Draft

/-- Adds the states that read one of the sequences backward: a fork, the states
of each sequence up to its first byte, and the state in which they meet. -/
def addBackward (d : Draft) (sequences : List (List (Nat × Nat))) : Option Draft := do
  let meet := d.states + 1
  let d ← d.grow 2 (link sequences.length)
  sequences.foldlM (fun d sequence ↦ do
    let (d, _) ← sequence.foldlM (fun (d, next) range ↦
      shared d meet [next, range.1, range.2] 0) (d, meet)
    return d) d

/-- Adds the state that reads the sequences forward and goes on to `goal`, and
those behind it, which come first. -/
def addNode (goal : Nat) : Nat → List (List (Nat × Nat)) → Draft → Option (Draft × Nat)
  | 0, _, d => some (d, goal)
  | depth + 1, sequences, d =>
    if sequences.all List.isEmpty then some (d, goal)
    else do
      let groups := sequences.splitBy fun a b ↦ a.head? = b.head?
      let (d, key) ← groups.foldlM (fun (d, key) group ↦ do
        let (d, next) ← addNode goal depth (group.map List.tail) d
        let range := (group.head?.bind List.head?).getD (0, 0)
        return (d, key ++ [range.1, range.2, next])) (d, [])
      shared d goal key (rangeList groups.length)

/-- Adds the states that read one of the sequences forward, with the state in
which they meet. -/
def addForward (d : Draft) (sequences : List (List (Nat × Nat))) : Option Draft := do
  let goal := d.states
  let d ← d.grow 1 0
  let (d, _) ← addNode goal 4 sequences d
  return d

/-- Adds the states that read a character of a set. -/
def addSet (backward : Bool) (set : Unicode.Ranges) (d : Draft) : Option Draft :=
  if isAscii set then d.grow 2 (rangeList set.length)
  else if backward then d.addBackward (encodings set)
  else d.addForward (encodings set)

/-! ## Choices between literals -/

/-- Cuts a list of texts at the empty ones. -/
def chunks : List Bytes → List (List Bytes)
  | [] => [[]]
  | [] :: rest => [] :: chunks rest
  | text :: rest => match chunks rest with
    | chunk :: chunks => (text :: chunk) :: chunks
    | [] => [[text]]

/-- The number of states, and the memory of their lists, that read one of the
texts, apart from the state in which they meet.  A text that ends where another
one goes on has the texts before it and those behind it in different states. -/
def trie : Nat → List Bytes → Nat × Nat
  | 0, _ => (0, 0)
  | depth + 1, texts =>
    if texts.all List.isEmpty then (0, 0)
    else
      let chunks := chunks texts
      let idle := (texts.takeWhile List.isEmpty).length - 1
      let successors := (chunks.filter (!·.isEmpty)).length + (chunks.length - 1 - idle)
      chunks.foldl (fun total chunk ↦
        let firsts := (chunk.filterMap List.head?).eraseDups
        let own := if firsts.isEmpty then (0, 0)
          else (1, if firsts.length = 1 then 0 else rangeList firsts.length)
        firsts.foldl (fun (states, lists) b ↦
          let (states', lists') := trie depth <|
            (chunk.filter fun text ↦ text.head? = some b).map List.tail
          (states + states', lists + lists')) (total.1 + own.1, total.2 + own.2))
        (1, link successors)

/-- Adds the states that read one of some texts. -/
def addTexts (backward : Bool) (texts : List Bytes) (d : Draft) : Option Draft :=
  let texts := if backward then texts.map List.reverse else texts
  let depth := texts.foldl (fun depth text ↦ max depth text.length) 0
  let (states, lists) := trie depth texts
  d.grow (states + 1) lists

/-! ## Repetitions -/

/-- Adds `count` copies of a part behind what was added last, which is a fork
or not, and says this of what is added last now. -/
def addCopies (add : Draft → Option (Draft × Bool)) : Nat → Bool → Draft → Option (Draft × Bool)
  | 0, isFork, d => some (d, isFork)
  | count + 1, isFork, d => match add d with
    | none => none
    | some (d, next) => match d.grow 0 (linkFrom isFork) with
      | none => none
      | some d => addCopies add count next d

/-- Adds exactly so many copies of a part. -/
def addExactly (add : Draft → Option (Draft × Bool)) (count : Nat) (d : Draft) :
    Option (Draft × Bool) :=
  if count = 0 then (d.grow 1 0).map (·, false) else addCopies add count false d

/-- Adds a fork in front of a part, and the part. -/
def addOptional (add : Draft → Option (Draft × Bool)) (d : Draft) : Option (Draft × Bool) := do
  let (d, isFork) ← add (← d.grow 1 (link 2))
  return (d, isFork)

/-- Adds a part as often as between two bounds.  `mayIdle` says whether the part
can be read without a byte. -/
def addRepeated (add : Draft → Option (Draft × Bool)) (mayIdle : Bool) (least : Nat)
    (most : Option Nat) (d : Draft) : Option (Draft × Bool) :=
  match least, most with
  | 0, some 1 => do
    let (d, isFork) ← addOptional add d
    return (← d.grow 1 (linkFrom isFork), false)
  | 0, none => do
    if mayIdle then
      let (d, isFork) ← add d
      return (← d.grow 3 (link 4 + linkFrom isFork), false)
    else
      let (d, isFork) ← add (← d.grow 1 (link 1))
      return (← d.grow 0 (linkFrom isFork), true)
  | 1, none => do
    let (d, isFork) ← add d
    return (← d.grow 1 (link 1 + linkFrom isFork), true)
  | least, none => do
    let (d, before) ← addExactly add (least - 1) d
    let (d, isFork) ← add d
    return (← d.grow 1 (link 1 + linkFrom before + linkFrom isFork), true)
  | least, some most => do
    let (d, isFork) ← addExactly add least d
    if most ≤ least then return (d, isFork)
    else
      let d ← d.grow 1 0
      let (d, isFork) ← addCopies (addOptional add) (most - least) isFork d
      return (← d.grow 0 (linkFrom isFork), false)

end Draft

/-! ## Patterns -/

mutual

/-- The number of bytes that every match has at least, if it is known. -/
def fewestBytes? : Pattern → Option Nat
  | .empty | .anchor _ => some 0
  | .literal bytes => some bytes.length
  | .character set | .byte set => if set.isEmpty then none else some 1
  | .group body => body.fewestBytes?
  | .sequence parts => fewestOfAll? parts
  | .choice branches => fewestOfAny? branches
  | .repeated body least _ _ => body.fewestBytes?.map (least * ·)

def fewestOfAll? : List Pattern → Option Nat
  | [] => some 0
  | p :: rest => match p.fewestBytes?, fewestOfAll? rest with
    | some m, some n => some (m + n)
    | _, _ => none

def fewestOfAny? : List Pattern → Option Nat
  | [] => none
  | [p] => p.fewestBytes?
  | p :: q :: rest => match p.fewestBytes?, fewestOfAny? (q :: rest) with
    | some m, some n => some (min m n)
    | _, _ => none

end

/-- The bytes of a literal. -/
def literal? : Pattern → Option Bytes
  | .literal bytes => some bytes
  | _ => none

mutual

/-- Adds the states of a pattern, and says whether the last one is a fork. -/
def addTo (backward : Bool) : Pattern → Draft → Option (Draft × Bool)
  | .empty, d => do return (← d.grow 1 0, false)
  | .literal bytes, d => do return (← d.grow bytes.length 0, false)
  | .character set, d => do return (← d.addSet backward set, false)
  | .byte set, d => do return (← d.grow 2 (Draft.rangeList set.length), false)
  | .anchor _, d => do return (← d.grow 1 0, false)
  | .group body, d =>
    if backward then body.addTo backward d
    else do
      let (d, isFork) ← body.addTo backward (← d.grow 1 0)
      return (← d.grow 1 (Draft.linkFrom isFork), false)
  | .sequence parts, d => if backward then addAllBackward parts d else addAllForward parts d
  | .choice branches, d => match branches.mapM literal? with
    | some texts => do return (← d.addTexts backward texts, false)
    | none => do return (← addBranches backward branches 0 d, false)
  | .repeated body least most _, d =>
    Draft.addRepeated (body.addTo backward) (body.fewestBytes?.getD 0 = 0) least most d

/-- Adds the states of patterns one behind the other. -/
def addAllForward : List Pattern → Draft → Option (Draft × Bool)
  | [], d => some (d, false)
  | [p], d => p.addTo false d
  | p :: q :: rest, d => do
    let (d, isFork) ← p.addTo false d
    let (d, last) ← addAllForward (q :: rest) d
    return (← d.grow 0 (Draft.linkFrom isFork), last)

/-- Adds the states of patterns one behind the other, to be read backward. -/
def addAllBackward : List Pattern → Draft → Option (Draft × Bool)
  | [], d => some (d, false)
  | p :: rest, d => do
    let (d, isFork) ← addAllBackward rest d
    let (d, last) ← p.addTo true d
    return (← d.grow 0 (Draft.linkFrom isFork), last)

/-- Adds the states of branches, when `count` branches were added before.  The
fork to the branches and the state in which they meet come behind the second
one. -/
def addBranches (backward : Bool) : List Pattern → Nat → Draft → Option Draft
  | [], _, d => some d
  | p :: rest, count, d => do
    let (d, isFork) ← p.addTo backward d
    let d ← d.grow (if count = 1 then 2 else 0) (Draft.link 1 + Draft.linkFrom isFork)
    addBranches backward rest (count + 1) d

end

mutual

/-- Whether a match can only start at the start of the text, or, backward, at
its end. -/
def isBound (backward : Bool) : Pattern → Bool
  | .anchor a => a = if backward then .textEnd else .textStart
  | .empty | .literal _ | .character _ | .byte _ => false
  | .group body => body.isBound backward
  | .sequence parts => if backward then lastBound parts else firstBound parts
  | .choice branches => allBound backward branches
  | .repeated body least _ _ => 0 < least && body.isBound backward

def firstBound : List Pattern → Bool
  | [] => false
  | p :: rest => p.isBound false || (p.takesNothing && firstBound rest)

def lastBound : List Pattern → Bool
  | [] => false
  | p :: rest => (allTakeNothing rest && p.isBound true) || lastBound rest

def allBound (backward : Bool) : List Pattern → Bool
  | [] => true
  | p :: rest => p.isBound backward && allBound backward rest

end

/-- How many places the memo of an automaton has. -/
def memoPlaces (backward : Bool) : Nat := if backward then 1000 else 10000

/-- The automaton of a pattern, unless it is too heavy.  In front of the pattern
it skips bytes, unless the pattern is bound to the end of the text; behind the
pattern it has one last state.  The forward automaton records the whole match
like a group. -/
def draft? (backward : Bool) (p : Pattern) : Option Draft := do
  let d : Draft := { memo := Array.replicate (memoPlaces backward) ([], 0) }
  let d ← if p.isBound backward then d.grow 1 0
    else d.grow 3 (Draft.rangeList 1 + Draft.link 2)
  let d ← d.grow (if backward then 0 else 1) 0
  let (d, isFork) ← p.addTo backward d
  d.grow (if backward then 1 else 2) (Draft.linkFrom isFork)

/-- Whether the pattern has to be refused. -/
def isTooHeavy (p : Pattern) : Bool := (p.draft? false).isNone || (p.draft? true).isNone

end Rollup.Pattern
