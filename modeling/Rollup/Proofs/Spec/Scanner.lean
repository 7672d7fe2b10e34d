import Rollup.Outcome
import Rollup.Spec.Lexer
import Rollup.Text.Utf8

/-!
# Scanning a spec by byte offsets

`Spec.tokens` goes through the characters of a text.  `Spec.scan` finds the same tokens by
offsets into the bytes of the text, as one does who wants to look at a byte without decoding
what stands before it.  It cuts names and patterns out of the text, and this is only possible at
offsets where a character begins or the text ends.  A cut anywhere else has no result; the scan then
halts with `Halt.badSlice`, which is no refusal of the spec but a defect of the scanner.

Blanks, names and signs are recognized by their bytes.  Patterns are read by characters, each
with its offset from the beginning of the pattern.

Who parses the tokens then has them all, looks at one with `Spec.lookup`, and goes on to the next
with `Spec.advance`.
-/

namespace Rollup.Spec

/-- Why a scan ends without tokens. -/
inductive Halt where
  | refused (refusal : Refusal)
  /-- The text was to be cut at an offset inside a character, behind the end, or backwards. -/
  | badSlice (start stop : Nat)
  /-- A token was looked for where there is none. -/
  | badIndex (index : Nat)
  deriving DecidableEq, Repr

/-- The text from byte `start` up to, and not including, byte `stop`. -/
def slice (text : String) (start stop : Nat) : Except Halt String :=
  if String.Pos.Raw.isValid text ⟨start⟩ && String.Pos.Raw.isValid text ⟨stop⟩ && start ≤ stop then
    .ok (String.Pos.Raw.extract text ⟨start⟩ ⟨stop⟩)
  else .error (.badSlice start stop)

/-- The first offset from `position` on at which no byte stands for a character of this kind. -/
def skip (p : Char → Bool) (bytes : Bytes) (position : Nat) : Nat :=
  position + ((bytes.drop position).takeWhile fun b ↦ p (.ofUInt8 b)).length

/-! ## Patterns -/

/-- Characters with their byte offsets, the first of which is `offset`. -/
def indexed (offset : Nat) : List Char → List (Nat × Char)
  | [] => []
  | c :: rest => (offset, c) :: indexed (offset + c.utf8Size) rest

/-- Reads up to the closing `quote`, and puts what it reads behind `done`. -/
def scanQuoted (quote : Char) (done : List Char) :
    List (Nat × Char) → Option (List Char × List (Nat × Char))
  | [] => none
  | (_, c) :: rest =>
    if c = '\\' then
      match rest with
      | [] => none
      | (_, next) :: rest =>
        if next = quote || next = '\\' then scanQuoted quote (done ++ [next]) rest
        else scanQuoted quote (done ++ ['\\', next]) rest
    else if c = quote then some (done, rest)
    else scanQuoted quote (done ++ [c]) rest

/-- The offset at which a pattern without quotes ends, when `depth` parentheses are open; none
if it goes on to the end of the text. -/
def scanBare : (depth : Nat) → List (Nat × Char) → Option Nat
  | _, [] => none
  | depth, (i, c) :: rest =>
    if c = '\\' then
      match rest with
      | [] => none
      | _ :: rest => scanBare depth rest
    else if c = '(' then scanBare (depth + 1) rest
    else if c = ')' then
      match depth with
      | 0 => some i
      | depth + 1 => scanBare depth rest
    else if c = '=' && (rest.head?.map Prod.snd) = some '>' then some i
    else if isBlank c then some i
    else scanBare depth rest

/-- An offset from byte `start` on, as one into the text; none stands for the end of the text. -/
def offsetIn (text : String) (start : Nat) (offset : Option Nat) : Nat :=
  offset.elim text.utf8ByteSize (start + ·)

/-- The pattern that begins at byte `start`, and the offset behind it. -/
def scanPattern (text : String) (start : Nat) : Except Halt (String × Nat) := do
  let body ← slice text start text.utf8ByteSize
  let chars := indexed 0 body.toList
  match chars with
  | [] => .error (.refused ⟨start, .missingPattern⟩)
  | (_, c) :: rest =>
    if c = '"' || c = '\'' then
      match scanQuoted c [] rest with
      | none => .error (.refused ⟨start, .unterminatedString⟩)
      | some (pattern, left) =>
        .ok (String.ofList pattern, offsetIn text start (left.head?.map Prod.fst))
    else
      let stop := offsetIn text start (scanBare 0 chars)
      if stop = start then .error (.refused ⟨start, .missingPattern⟩)
      else (slice text start stop).map fun pattern ↦ (pattern, stop)

/-! ## Tokens -/

/-- The tokens that the byte `b` at offset `start` begins, and the offset behind them. -/
def scanToken (text : String) (start : Nat) (b : UInt8) : Except Halt (List Token × Nat) :=
  let bytes := Bytes.ofString text
  let c := Char.ofUInt8 b
  if c = '(' then .ok ([⟨.openParen, start⟩], start + 1)
  else if c = ')' then .ok ([⟨.closeParen, start⟩], start + 1)
  else if c = ',' then .ok ([⟨.comma, start⟩], start + 1)
  else if c = '=' && bytes[start + 1]?.map Char.ofUInt8 = some '>' then
    .ok ([⟨.arrow, start⟩], start + 2)
  else if c = '~' then
    let body := skip isAsciiBlank bytes (start + 1)
    (scanPattern text body).map fun (pattern, stop) ↦
      ([⟨.tilde, start⟩, ⟨.pattern pattern, body⟩], stop)
  else if isNameStart c then
    let stop := skip isNameChar bytes start
    (slice text start stop).map fun name ↦ ([⟨.name name, start⟩], stop)
  else do
    let rest ← slice text start text.utf8ByteSize
    .error (.refused ⟨start, .unexpectedCharacter (rest.toList.headD '\x00')⟩)

/-! ### A scan goes on -/

open Outcome

theorem le_skip (p : Char → Bool) (bytes : Bytes) (position : Nat) :
    position ≤ skip p bytes position :=
  Nat.le_add_right _ _

theorem lt_skip {p : Char → Bool} {bytes : Bytes} {position : Nat} {b : UInt8}
    (hb : bytes[position]? = some b) (hp : p (.ofUInt8 b) = true) :
    position < skip p bytes position := by
  obtain ⟨hlt, rfl⟩ := List.getElem?_eq_some_iff.1 hb
  rw [skip, List.drop_eq_getElem_cons hlt,
    List.takeWhile_cons_of_pos (p := fun b ↦ p (.ofUInt8 b)) hp, List.length_cons]
  omega

theorem le_of_slice {text found : String} {start stop : Nat}
    (h : slice text start stop = .ok found) : start ≤ stop := by
  grind [slice]

theorem le_offsetIn {text : String} {start : Nat} (h : start ≤ text.utf8ByteSize)
    (offset : Option Nat) : start ≤ offsetIn text start offset := by
  cases offset with
  | none => exact h
  | some i => exact Nat.le_add_right start i

theorem le_of_scanPattern {text pattern : String} {start stop : Nat}
    (h : scanPattern text start = .ok (pattern, stop)) : start ≤ stop := by
  obtain ⟨body, hbody, h⟩ := bind_eq_ok.1 h
  have hle := le_offsetIn (le_of_slice hbody)
  grind [map_eq_ok]

theorem lt_of_scanToken {text : String} {start next : Nat} {b : UInt8} {found : List Token}
    (hb : (Bytes.ofString text)[start]? = some b) (h : scanToken text start b = .ok (found, next)) :
    start < next := by
  have hblank := le_skip isAsciiBlank (Bytes.ofString text) (start + 1)
  have hname (hstart : isNameStart (.ofUInt8 b) = true) :
      start < skip isNameChar (Bytes.ofString text) start :=
    lt_skip hb (by grind [isNameStart, isNameChar, Char.isAlphanum])
  grind [scanToken, map_eq_ok, bind_eq_ok, → le_of_scanPattern]

/-- The tokens of the text from byte `position` on, the last of them marking its end. -/
def scanFrom (text : String) (position : Nat) : Except Halt (List Token) :=
  let start := skip isAsciiBlank (Bytes.ofString text) position
  match hb : (Bytes.ofString text)[start]? with
  | none => .ok [⟨.stop, start⟩]
  | some b =>
    match h : scanToken text start b with
    | .error halt => .error halt
    | .ok (found, next) =>
      have := lt_of_scanToken hb h
      (scanFrom text next).map (found ++ ·)
  termination_by (Bytes.ofString text).length - position
  decreasing_by
    have hle : position ≤ start := le_skip isAsciiBlank (Bytes.ofString text) position
    have hlt : start < (Bytes.ofString text).length := (List.getElem?_eq_some_iff.1 hb).1
    omega

/-- The tokens of a spec, found by byte offsets. -/
def scan (text : String) : Except Halt (List Token) := scanFrom text 0

/-- The token at a cursor, which is the last one for a cursor behind it. -/
def lookup (ts : List Token) (cursor : Nat) : Except Halt Token :=
  let index := min cursor (ts.length - 1)
  match ts[index]? with
  | some t => .ok t
  | none => .error (.badIndex index)

/-- The cursor behind the token at this one, which stays at the end of the spec. -/
def advance (ts : List Token) (cursor : Nat) : Except Halt Nat :=
  (lookup ts cursor).map fun t ↦ if t.kind = .stop then cursor else cursor + 1

end Rollup.Spec
