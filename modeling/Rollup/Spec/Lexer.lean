import Rollup.Spec.Token
import Rollup.Text.Blank

/-!
# Reading the tokens of a spec

`Spec.tokens` cuts a text into tokens.  Between tokens only ASCII blanks may
stand; a character that starts no token is refused.

A pattern stands behind a tilde and is read by rules of its own:

* Between quotes of either kind, a backslash makes a quote of that kind or a
  backslash part of the pattern; in front of anything else it stays.
* Without quotes, the pattern ends in front of white space, an arrow, or a
  closing parenthesis that it did not open.  A backslash keeps the character
  behind it from ending the pattern or counting as a parenthesis; both stay.

Positions count bytes, as do those of editors and terminals' error matchers, so
the reader carries the byte offset of the text it has left.
-/

namespace Rollup.Spec

/-- The number of bytes the characters take in UTF-8. -/
def byteLength (text : List Char) : Nat := (text.map Char.utf8Size).foldr (· + ·) 0

@[simp] theorem byteLength_nil : byteLength [] = 0 := rfl

@[simp] theorem byteLength_cons (c : Char) (text : List Char) :
    byteLength (c :: text) = c.utf8Size + byteLength text := by
  simp [byteLength]

@[simp] theorem byteLength_append (s t : List Char) :
    byteLength (s ++ t) = byteLength s + byteLength t := by
  induction s with
  | nil => simp
  | cons c s ih => simp [ih, Nat.add_assoc]

/-! ## Patterns -/

/-- Reads up to the closing `quote`.  The answer is the pattern and the text
behind the quote, or none when the quote is missing. -/
def quotedPattern? (quote : Char) : List Char → Option (List Char × List Char)
  | [] => none
  | ['\\'] => none
  | '\\' :: c :: rest =>
    (quotedPattern? quote rest).map fun (pattern, rest) ↦
      (if c = quote || c = '\\' then (c :: pattern, rest) else ('\\' :: c :: pattern, rest))
  | c :: rest =>
    if c = quote then some ([], rest)
    else (quotedPattern? quote rest).map fun (pattern, rest) ↦ (c :: pattern, rest)

/-- Reads up to what ends an unquoted pattern, when `depth` parentheses are open.
The answer is the pattern and the text that follows it. -/
def barePattern : Nat → List Char → List Char × List Char
  | _, [] => ([], [])
  | _, ['\\'] => (['\\'], [])
  | depth, '\\' :: c :: rest =>
    let (pattern, rest) := barePattern depth rest
    ('\\' :: c :: pattern, rest)
  | _, '=' :: '>' :: rest => ([], '=' :: '>' :: rest)
  | depth, c :: rest =>
    if isBlank c || (c = ')' && depth = 0) then ([], c :: rest)
    else
      let depth := if c = '(' then depth + 1 else if c = ')' then depth - 1 else depth
      let (pattern, rest) := barePattern depth rest
      (c :: pattern, rest)

/-- The pattern at the front of a text that starts at byte `position`. -/
def pattern (position : Nat) (text : List Char) : Except Refusal (List Char × List Char) :=
  match text with
  | [] => .error ⟨position, .missingPattern⟩
  | c :: rest =>
    if c = '"' || c = '\'' then
      match quotedPattern? c rest with
      | some found => .ok found
      | none => .error ⟨position, .unterminatedString⟩
    else
      let found := barePattern 0 (c :: rest)
      if found.1.isEmpty then .error ⟨position, .missingPattern⟩ else .ok found

/-! ## Tokens -/

def isNameStart (c : Char) : Bool := c.isAlpha || c = '_'

def isNameChar (c : Char) : Bool := c.isAlphanum || c = '_'

/-- The tokens that the character `c` at byte `position` begins, two of them if
it is a tilde; the byte offset behind them; and the text left. -/
def lexeme (position : Nat) (c : Char) (rest : List Char) :
    Except Refusal (List Token × Nat × List Char) :=
  if c = '(' then .ok ([⟨.openParen, position⟩], position + 1, rest)
  else if c = ')' then .ok ([⟨.closeParen, position⟩], position + 1, rest)
  else if c = ',' then .ok ([⟨.comma, position⟩], position + 1, rest)
  else if c = '=' && rest.head? = some '>' then
    .ok ([⟨.arrow, position⟩], position + 2, rest.tail)
  else if c = '~' then
    let body := rest.dropWhile isAsciiBlank
    let start := position + 1 + (rest.length - body.length)
    match pattern start body with
    | .error refusal => .error refusal
    | .ok (text, left) => .ok
      ([⟨.tilde, position⟩, ⟨.pattern (String.ofList text), start⟩],
        start + (byteLength body - byteLength left), left)
  else if isNameStart c then
    let name := c :: rest.takeWhile isNameChar
    .ok ([⟨.name (String.ofList name), position⟩], position + name.length,
      rest.dropWhile isNameChar)
  else .error ⟨position, .unexpectedCharacter c⟩

/-! ### The text left is never longer -/

theorem length_dropWhile_le {α : Type} (p : α → Bool) (l : List α) :
    (l.dropWhile p).length ≤ l.length :=
  (l.dropWhile_suffix p).length_le

theorem quotedPattern?_length {quote : Char} {text found left : List Char}
    (h : quotedPattern? quote text = some (found, left)) : left.length ≤ text.length := by
  fun_induction quotedPattern? quote text generalizing found left <;>
    grind [Option.map_eq_some_iff]

theorem barePattern_length (depth : Nat) (text : List Char) :
    (barePattern depth text).2.length ≤ text.length := by
  fun_induction barePattern depth text <;> grind

theorem pattern_length {position : Nat} {text found left : List Char}
    (h : pattern position text = .ok (found, left)) : left.length ≤ text.length := by
  have hbare := barePattern_length 0 text
  unfold pattern at h
  split at h
  · cases h
  · split at h
    · split at h
      · cases h
        exact Nat.le_succ_of_le (quotedPattern?_length ‹_›)
      · cases h
    · dsimp only at h
      split at h
      · cases h
      · injection h with h
        simpa only [h] using hbare

theorem lexeme_length {position next : Nat} {c : Char} {rest left : List Char}
    {found : List Token} (h : lexeme position c rest = .ok (found, next, left)) :
    left.length ≤ rest.length := by
  have hblank := length_dropWhile_le isAsciiBlank rest
  have hname := length_dropWhile_le isNameChar rest
  grind [lexeme, → pattern_length]

/-- The tokens of the text, which starts at byte `position`. -/
def tokensFrom (position : Nat) (text : List Char) : Except Refusal (List Token) :=
  match text with
  | [] => .ok []
  | c :: rest =>
    if isAsciiBlank c then tokensFrom (position + 1) rest
    else match h : lexeme position c rest with
      | .error refusal => .error refusal
      | .ok (found, next, left) =>
        have := lexeme_length h
        (tokensFrom next left).map (found ++ ·)
  termination_by text.length
  decreasing_by all_goals simp only [List.length_cons]; omega

/-- The tokens of a spec, the last of them marking its end. -/
def tokens (text : String) : Except Refusal (List Token) :=
  (tokensFrom 0 text.toList).map (· ++ [⟨.stop, byteLength text.toList⟩])

end Rollup.Spec
