import Rollup.Proofs.Spec.Lexing

/-!
# What tokens stand for

Every token stands for a piece of the text (`Stands`).  Which piece it is depends on what
follows in two cases: a name goes on as long as it can, and a pattern without quotes ends at
the first place at which it can (`EndsFirst`).

A text is tiled by such pieces: between them there are only ASCII blanks, in front of a
pattern there is a tilde, and at the end there is the token that marks it (`Tiles`).  The tokens of
a text tile it (`tiles_of_tokensFrom`); if it has none, the reader has stopped at some character or
at the end (`stopsAt_of_tokensFrom`).

| Reader | What it has taken |
|---|---|
| `barePattern` | `endsFirst_barePattern` |
| `quotedPattern?` | `quoted_of_quotedPattern?` |
| `pattern` | `stands_of_pattern` |
| `lexeme` | `covers_of_lexeme` |
-/

namespace Rollup.Spec

open Outcome

variable {c quote : Char} {text piece behind body found left rest : List Char} {position next : Nat}
  {kind : TokenKind} {refusal : Refusal}

/-! ## Patterns without quotes -/

/-- Whether the next character is escaped, and how many parentheses are open. -/
structure Progress where
  escaped : Bool
  opened : Nat

namespace Progress

/-- Nothing has been read. -/
def start : Progress := ⟨false, 0⟩

/-- A backslash escapes the character behind it. -/
def step (state : Progress) (c : Char) : Progress :=
  if state.escaped then ⟨false, state.opened⟩
  else if c = '\\' then ⟨true, state.opened⟩
  else if c = '(' then ⟨false, state.opened + 1⟩
  else if c = ')' then ⟨false, state.opened - 1⟩
  else ⟨false, state.opened⟩

/-- What has been read when some characters have been. -/
def after (state : Progress) (front : List Char) : Progress := front.foldl step state

/-- A pattern can end in front of this text: at its end, or, if no backslash stands before it,
at white space, an arrow, or a closing parenthesis when none is open. -/
def EndsAt (state : Progress) (behind : List Char) : Prop :=
  behind = [] ∨ state.escaped = false ∧
    ((∃ c ∈ behind.head?, isBlank c = true) ∨ ['=', '>'] <+: behind ∨
      behind.head? = some ')' ∧ state.opened = 0)

/-- Behind this piece a pattern can end, and nowhere before. -/
structure EndsFirst (state : Progress) (piece behind : List Char) : Prop where
  ends : (state.after piece).EndsAt behind
  first : ∀ front more, front ++ more = piece → more ≠ [] →
    ¬ (state.after front).EndsAt (more ++ behind)

variable {state : Progress}

theorem EndsFirst.nil (h : state.EndsAt behind) : state.EndsFirst [] behind where
  ends := h
  first _ _ hsplit hne := absurd (List.append_eq_nil_iff.1 hsplit).2 hne

theorem EndsFirst.cons (hgoes : ¬ state.EndsAt (c :: (piece ++ behind)))
    (h : (state.step c).EndsFirst piece behind) : state.EndsFirst (c :: piece) behind where
  ends := h.ends
  first front more hsplit hne := by
    cases front with
    | nil =>
      obtain rfl : more = c :: piece := hsplit
      exact hgoes
    | cons d front =>
      obtain ⟨rfl, hrest⟩ := List.cons.inj hsplit
      exact h.first front more hrest hne

/-- In front of an escaped character no pattern ends. -/
theorem not_endsAt_of_escaped (h : state.escaped = true) : ¬ state.EndsAt (c :: rest) := by
  rintro (hnil | ⟨hescaped, -⟩)
  · cases hnil
  · rw [h] at hescaped
    cases hescaped

theorem not_endsAt_cons (hblank : isBlank c = false) (harrow : c = '=' → rest.head? ≠ some '>')
    (hclose : c = ')' → state.opened ≠ 0) : ¬ state.EndsAt (c :: rest) := by
  rintro (hnil | ⟨-, ⟨d, hd, hd'⟩ | ⟨more, hmore⟩ | ⟨hhead, hopened⟩⟩)
  · cases hnil
  · cases hd
    exact ne_true_of_eq_false hblank hd'
  · cases hmore
    exact harrow rfl rfl
  · cases hhead
    exact hclose rfl hopened

theorem not_endsAt_backslash : ¬ state.EndsAt ('\\' :: rest) := by
  refine not_endsAt_cons rfl ?_ ?_
  · intro h
    cases h
  · intro h
    cases h

end Progress

open Progress

theorem barePattern_append (depth : Nat) (text : List Char) :
    (barePattern depth text).1 ++ (barePattern depth text).2 = text := by
  fun_induction barePattern depth text with
  | case1 => rfl
  | case2 => rfl
  | case3 depth c rest pattern left heq ih =>
    rw [heq] at ih
    exact congrArg (fun text ↦ '\\' :: c :: text) ih
  | case4 => rfl
  | case5 => rfl
  | case6 depth c rest hlast hbackslash harrow hgoes depth' pattern left heq ih =>
    rw [heq] at ih
    exact congrArg (c :: ·) ih

/-- A pattern without quotes ends at the first place at which it can. -/
theorem endsFirst_barePattern (depth : Nat) (text : List Char) :
    EndsFirst ⟨false, depth⟩ (barePattern depth text).1 (barePattern depth text).2 := by
  fun_induction barePattern depth text with
  | case1 => exact .nil (.inl rfl)
  | case2 => exact .cons not_endsAt_backslash (.nil (.inl rfl))
  | case3 depth c rest pattern left heq ih =>
    rw [heq] at ih
    exact .cons not_endsAt_backslash (.cons (not_endsAt_of_escaped rfl) ih)
  | case4 depth rest => exact .nil (.inr ⟨rfl, .inr (.inl ⟨rest, rfl⟩)⟩)
  | case5 depth c rest hlast hbackslash harrow hends =>
    refine .nil (.inr ⟨rfl, ?_⟩)
    rw [Bool.or_eq_true, Bool.and_eq_true, decide_eq_true_eq, decide_eq_true_eq] at hends
    rcases hends with hblank | ⟨rfl, rfl⟩
    · exact .inl ⟨c, rfl, hblank⟩
    · exact .inr (.inr ⟨rfl, rfl⟩)
  | case6 depth c rest hlast hbackslash harrow hgoes depth' pattern left heq ih =>
    have hrest : pattern ++ left = rest := by
      have happend := barePattern_append depth' rest
      rwa [heq] at happend
    rw [heq] at ih
    have hc : c ≠ '\\' := ne_backslash hlast hbackslash
    have hstep : step ⟨false, depth⟩ c = ⟨false, depth'⟩ := by
      rw [step, if_neg Bool.false_ne_true, if_neg hc]
      dsimp only [depth']
      split
      · rfl
      · split <;> rfl
    rw [Bool.or_eq_true, Bool.and_eq_true, decide_eq_true_eq, decide_eq_true_eq, not_or] at hgoes
    refine .cons ?_ (hstep ▸ ih)
    rw [hrest]
    refine not_endsAt_cons (eq_false_of_ne_true hgoes.1) (fun hc hhead ↦ ?_)
      fun hc hdepth ↦ hgoes.2 ⟨hc, hdepth⟩
    obtain ⟨more, rfl⟩ := List.head?_eq_some_iff.1 hhead
    exact harrow more hc rfl

/-! ## Patterns with quotes -/

/-- What stands behind a quote, up to the closing one, is read as a pattern: a backslash is left
out in front of a quote of this kind and of a backslash, and only there. -/
inductive Quoted (quote : Char) : (body found : List Char) → Prop
  | close : Quoted quote [quote] []
  | escape {c : Char} {body found : List Char} (hc : c = quote ∨ c = '\\')
    (h : Quoted quote body found) : Quoted quote ('\\' :: c :: body) (c :: found)
  | keep {c : Char} {body found : List Char} (hquote : c ≠ quote) (hbackslash : c ≠ '\\')
    (h : Quoted quote body found) : Quoted quote ('\\' :: c :: body) ('\\' :: c :: found)
  | char {c : Char} {body found : List Char} (hquote : c ≠ quote) (hbackslash : c ≠ '\\')
    (h : Quoted quote body found) : Quoted quote (c :: body) (c :: found)

theorem quoted_of_quotedPattern? (h : quotedPattern? quote text = some (found, left)) :
    ∃ body, text = body ++ left ∧ Quoted quote body found := by
  fun_induction quotedPattern? quote text generalizing found left with
  | case1 => cases h
  | case2 => cases h
  | case3 c rest ih =>
    obtain ⟨⟨found', left'⟩, hrest, heq⟩ := Option.map_eq_some_iff.1 h
    obtain ⟨body, rfl, hbody⟩ := ih hrest
    dsimp only at heq
    split at heq
    · rename_i hc
      cases heq
      rw [Bool.or_eq_true, decide_eq_true_eq, decide_eq_true_eq] at hc
      exact ⟨'\\' :: c :: body, rfl, .escape hc hbody⟩
    · rename_i hc
      cases heq
      rw [Bool.or_eq_true, decide_eq_true_eq, decide_eq_true_eq, not_or] at hc
      exact ⟨'\\' :: c :: body, rfl, .keep hc.1 hc.2 hbody⟩
  | case4 rest =>
    cases h
    exact ⟨[quote], rfl, .close⟩
  | case5 c rest hlast hbackslash hquote ih =>
    obtain ⟨⟨found', left'⟩, hrest, heq⟩ := Option.map_eq_some_iff.1 h
    cases heq
    obtain ⟨body, rfl, hbody⟩ := ih hrest
    exact ⟨c :: body, rfl, .char hquote (ne_backslash hlast hbackslash) hbody⟩

/-! ## Tokens and pieces -/

/-- What a piece of text is read as, given what stands behind it. -/
inductive Stands : TokenKind → (piece behind : List Char) → Prop
  | arrow {behind : List Char} : Stands .arrow ['=', '>'] behind
  | openParen {behind : List Char} : Stands .openParen ['('] behind
  | closeParen {behind : List Char} : Stands .closeParen [')'] behind
  | comma {behind : List Char} : Stands .comma [','] behind
  | tilde {behind : List Char} : Stands .tilde ['~'] behind
  | name {piece behind : List Char} (hname : isName piece = true) (hapart : Apart behind) :
    Stands (.name (String.ofList piece)) piece behind
  | quoted {quote : Char} {body found behind : List Char} (hquote : quote = '"' ∨ quote = '\'')
    (h : Quoted quote body found) : Stands (.pattern (String.ofList found)) (quote :: body) behind
  | bare {piece behind : List Char} (hne : piece ≠ [])
    (hbegins : ∀ c ∈ piece.head?, c ≠ '"' ∧ c ≠ '\'') (h : start.EndsFirst piece behind) :
    Stands (.pattern (String.ofList piece)) piece behind
  | stop : Stands .stop [] []

/-- The token stands alone, and not in a pair of a tilde and a pattern or at the end. -/
def TokenKind.isPlain : TokenKind → Bool
  | .tilde | .pattern _ | .stop => false
  | _ => true

/-- A token, and the byte offset behind its piece. -/
structure Span where
  token : Token
  stop : Nat

/-- The span of a piece that begins at byte `position`. -/
def Span.of (kind : TokenKind) (position : Nat) (piece : List Char) : Span :=
  ⟨⟨kind, position⟩, position + byteLength piece⟩

/-- The spans of a lexeme, which is a piece of text or two. -/
inductive Covers (position : Nat) : (piece behind : List Char) → List Span → Prop
  | plain {kind : TokenKind} {piece behind : List Char} (hne : piece ≠ [])
    (hplain : kind.isPlain = true) (h : Stands kind piece behind) :
    Covers position piece behind [.of kind position piece]
  | filter {found : String} {blanks piece behind : List Char}
    (hblanks : ∀ c ∈ blanks, isAsciiBlank c = true) (h : Stands (.pattern found) piece behind) :
    Covers position ('~' :: (blanks ++ piece)) behind
      [.of .tilde position ['~'], .of (.pattern found) (position + 1 + byteLength blanks) piece]

/-- A text that begins at byte `position` consists of these spans, and of ASCII blanks. -/
inductive Tiles : (position : Nat) → List Char → List Span → Prop
  | nil (position : Nat) : Tiles position [] [.of .stop position []]
  | blank {position : Nat} {c : Char} {rest : List Char} {spans : List Span}
    (hblank : isAsciiBlank c = true) (h : Tiles (position + 1) rest spans) :
    Tiles position (c :: rest) spans
  | covers {position : Nat} {piece behind : List Char} {found spans : List Span}
    (hcovers : Covers position piece behind found)
    (h : Tiles (position + byteLength piece) behind spans) :
    Tiles position (piece ++ behind) (found ++ spans)

/-- At this offset a character of the text begins, or the text ends. -/
def StopsAt (position : Nat) (text : List Char) (offset : Nat) : Prop :=
  ∃ front behind, text = front ++ behind ∧ offset = position + byteLength front

/-! ## Characters of one byte -/

theorem utf8Size_of_isAsciiBlank (h : isAsciiBlank c = true) : c.utf8Size = 1 := by
  simp only [isAsciiBlank, Bool.or_eq_true, decide_eq_true_eq] at h
  obtain (((rfl | rfl) | rfl) | rfl) | rfl := h <;> rfl

theorem utf8Size_of_le {high : Char} (h : c.val ≤ high.val) (hhigh : high.val ≤ 127) :
    c.utf8Size = 1 :=
  Char.utf8Size_eq_one_iff.2 (UInt32.le_trans h hhigh)

theorem utf8Size_of_isNameChar (h : isNameChar c = true) : c.utf8Size = 1 := by
  rw [isNameChar, Char.isAlphanum, Bool.or_eq_true, Bool.or_eq_true] at h
  rcases h with (hletter | hdigit) | hline
  · rcases Bool.or_eq_true_iff.1 hletter with hupper | hlower
    · have hle : c.val ≤ 'Z'.val := (of_decide_eq_true hupper).2
      exact utf8Size_of_le hle (by decide)
    · have hle : c.val ≤ 'z'.val := of_decide_eq_true (Bool.and_eq_true_iff.1 hlower).2
      exact utf8Size_of_le hle (by decide)
  · have hle : c.val ≤ '9'.val := of_decide_eq_true (Bool.and_eq_true_iff.1 hdigit).2
    exact utf8Size_of_le hle (by decide)
  · obtain rfl := of_decide_eq_true hline
    rfl

theorem isNameChar_of_isNameStart (h : isNameStart c = true) : isNameChar c = true := by
  rw [isNameStart, Bool.or_eq_true] at h
  rw [isNameChar, Char.isAlphanum, Bool.or_eq_true, Bool.or_eq_true]
  exact h.imp .inl id

theorem length_le_byteLength (text : List Char) : text.length ≤ byteLength text := by
  induction text with
  | nil => exact Nat.le_refl _
  | cons c text ih =>
    have hpos := c.utf8Size_pos
    rw [byteLength_cons, List.length_cons]
    omega

theorem byteLength_eq_length_iff : byteLength text = text.length ↔ ∀ c ∈ text, c.utf8Size = 1 := by
  induction text with
  | nil => exact ⟨fun _ ↦ List.forall_mem_nil _, fun _ ↦ rfl⟩
  | cons c text ih =>
    have hpos := c.utf8Size_pos
    have hle := length_le_byteLength text
    rw [List.forall_mem_cons, ← ih, byteLength_cons, List.length_cons]
    omega

theorem byteLength_takeWhile {p : Char → Bool} (hp : ∀ c, p c = true → c.utf8Size = 1)
    (text : List Char) : byteLength (text.takeWhile p) = (text.takeWhile p).length :=
  byteLength_eq_length_iff.2 fun c hc ↦ hp c (List.all_eq_true.1 List.all_takeWhile c hc)

theorem apart_dropWhile (text : List Char) : Apart (text.dropWhile isNameChar) := by
  intro c hc
  have hhead := List.head?_dropWhile_not isNameChar text
  rw [hc] at hhead
  exact hhead

/-! ## Lexemes -/

theorem stopsAt_self (text : List Char) (position : Nat) : StopsAt position text position :=
  ⟨[], text, rfl, rfl⟩

theorem StopsAt.append {offset : Nat} (front : List Char)
    (h : StopsAt (position + byteLength front) text offset) :
    StopsAt position (front ++ text) offset := by
  obtain ⟨front', behind, rfl, rfl⟩ := h
  exact ⟨front ++ front', behind, (List.append_assoc ..).symm, by
    rw [byteLength_append, Nat.add_assoc]⟩

/-- A pattern is refused at its place. -/
theorem position_of_pattern (h : pattern position text = .error refusal) :
    refusal.position = position := by
  rw [pattern.eq_def] at h
  split at h
  · cases h
    rfl
  · split at h
    · split at h
      · cases h
      · cases h
        rfl
    · dsimp only at h
      split at h
      · cases h
        rfl
      · cases h

theorem stands_of_pattern (h : pattern position text = .ok (found, left)) :
    ∃ piece, text = piece ++ left ∧ Stands (.pattern (String.ofList found)) piece left := by
  rw [pattern.eq_def] at h
  split at h
  · cases h
  · rename_i c rest
    split at h
    · rename_i hquote
      rw [Bool.or_eq_true, decide_eq_true_eq, decide_eq_true_eq] at hquote
      split at h
      · rename_i found' hfound
        cases h
        obtain ⟨body, rfl, hbody⟩ := quoted_of_quotedPattern? hfound
        exact ⟨c :: body, rfl, .quoted hquote hbody⟩
      · cases h
    · rename_i hquote
      rw [Bool.or_eq_true, decide_eq_true_eq, decide_eq_true_eq, not_or] at hquote
      dsimp only at h
      split at h
      · cases h
      · rename_i hne
        have happend := barePattern_append 0 (c :: rest)
        have hends := endsFirst_barePattern 0 (c :: rest)
        rw [Except.ok.inj h] at happend hends hne
        refine ⟨found, happend.symm, .bare (List.isEmpty_eq_false_iff.1 (eq_false_of_ne_true hne))
          (fun d hd ↦ ?_) hends⟩
        obtain ⟨more, rfl⟩ := List.head?_eq_some_iff.1 hd
        obtain ⟨rfl, -⟩ := List.cons.inj happend
        exact hquote

/-- A pattern begins behind the blanks that follow its tilde. -/
theorem pattern_start (position : Nat) (text : List Char) :
    position + (text.length - (text.dropWhile isAsciiBlank).length) =
      position + byteLength (text.takeWhile isAsciiBlank) := by
  have hlength :=
    congrArg List.length (List.takeWhile_append_dropWhile (p := isAsciiBlank) (l := text))
  rw [List.length_append] at hlength
  rw [byteLength_takeWhile (p := isAsciiBlank) fun _ ↦ utf8Size_of_isAsciiBlank]
  omega

/-- A tilde and a pattern, with the blanks between them. -/
theorem covers_filter {start : Nat}
    (h : pattern start (rest.dropWhile isAsciiBlank) = .ok (found, left)) :
    ∃ piece, rest.dropWhile isAsciiBlank = piece ++ left ∧
      '~' :: rest = '~' :: (rest.takeWhile isAsciiBlank ++ piece) ++ left ∧
      Covers position ('~' :: (rest.takeWhile isAsciiBlank ++ piece)) left
        [.of .tilde position ['~'], .of (.pattern (.ofList found))
          (position + 1 + byteLength (rest.takeWhile isAsciiBlank)) piece] := by
  obtain ⟨piece, hbody, hstands⟩ := stands_of_pattern h
  refine ⟨piece, hbody, ?_, .filter (List.all_eq_true.1 List.all_takeWhile) hstands⟩
  rw [List.cons_append, List.append_assoc, ← hbody, List.takeWhile_append_dropWhile]

/-- A name goes on up to the first character that cannot be in it, and all of its characters take
one byte. -/
theorem stands_name (h : isNameStart c = true) (rest : List Char) :
    Stands (.name (.ofList (c :: rest.takeWhile isNameChar))) (c :: rest.takeWhile isNameChar)
        (rest.dropWhile isNameChar) ∧
      byteLength (c :: rest.takeWhile isNameChar) = (c :: rest.takeWhile isNameChar).length := by
  have hc : isNameChar c = true := isNameChar_of_isNameStart h
  have hall : (rest.takeWhile isNameChar).all isNameChar = true := List.all_takeWhile
  constructor
  · refine .name ?_ (apart_dropWhile rest)
    rw [isName, List.all_cons, hc, hall]
    exact Bool.and_eq_true_iff.2 ⟨h, rfl⟩
  · rw [byteLength_cons, byteLength_takeWhile fun _ ↦ utf8Size_of_isNameChar,
      utf8Size_of_isNameChar hc, List.length_cons, Nat.add_comm 1]

theorem covers_of_lexeme {found : List Token}
    (h : lexeme position c rest = .ok (found, next, left)) :
    ∃ piece spans, c :: rest = piece ++ left ∧ next = position + byteLength piece ∧
      Covers position piece left spans ∧ spans.map Span.token = found := by
  have plain {kind : TokenKind} {piece : List Char} (hpiece : c :: rest = piece ++ left)
      (hne : piece ≠ []) (hkind : kind.isPlain = true) (hstands : Stands kind piece left)
      (hnext : next = position + byteLength piece) (hfound : [⟨kind, position⟩] = found) :
      ∃ piece spans, c :: rest = piece ++ left ∧ next = position + byteLength piece ∧
        Covers position piece left spans ∧ spans.map Span.token = found :=
    ⟨piece, [.of kind position piece], hpiece, hnext, .plain hne hkind hstands, hfound⟩
  rw [lexeme] at h
  split at h
  · rename_i hc
    subst hc
    cases h
    exact plain rfl (List.cons_ne_nil _ _) rfl .openParen rfl rfl
  split at h
  · rename_i hc
    subst hc
    cases h
    exact plain rfl (List.cons_ne_nil _ _) rfl .closeParen rfl rfl
  split at h
  · rename_i hc
    subst hc
    cases h
    exact plain rfl (List.cons_ne_nil _ _) rfl .comma rfl rfl
  split at h
  · rename_i hc
    rw [Bool.and_eq_true, decide_eq_true_eq, decide_eq_true_eq] at hc
    obtain ⟨rfl, hnext⟩ := hc
    obtain ⟨more, rfl⟩ := List.head?_eq_some_iff.1 hnext
    cases h
    exact plain rfl (List.cons_ne_nil _ _) rfl .arrow rfl rfl
  split at h
  · rename_i hc
    subst hc
    dsimp only at h
    rw [pattern_start] at h
    split at h
    · cases h
    · rename_i text left' hpattern
      cases h
      obtain ⟨piece, hbody, hpiece, hcovers⟩ := covers_filter hpattern
      have htilde : '~'.utf8Size = 1 := rfl
      refine ⟨_, _, hpiece, ?_, hcovers, rfl⟩
      rw [hbody, byteLength_cons, byteLength_append, byteLength_append, htilde]
      omega
  split at h
  · rename_i hstart
    cases h
    obtain ⟨hstands, hlength⟩ := stands_name hstart rest
    refine plain ?_ (List.cons_ne_nil _ _) rfl hstands (by rw [hlength]) rfl
    rw [List.cons_append, List.takeWhile_append_dropWhile]
  · cases h

/-- A lexeme is refused where it begins, or where its pattern should. -/
theorem stopsAt_of_lexeme (h : lexeme position c rest = .error refusal) :
    StopsAt position (c :: rest) refusal.position := by
  rw [lexeme] at h
  split at h
  · cases h
  split at h
  · cases h
  split at h
  · cases h
  split at h
  · cases h
  split at h
  · rename_i hc
    subst hc
    dsimp only at h
    rw [pattern_start] at h
    split at h
    · rename_i refusal' hpattern
      cases h
      rw [position_of_pattern hpattern]
      refine ⟨'~' :: rest.takeWhile isAsciiBlank, rest.dropWhile isAsciiBlank, ?_, ?_⟩
      · rw [List.cons_append, List.takeWhile_append_dropWhile]
      · rw [byteLength_cons, Nat.add_assoc]
        rfl
    · cases h
  split at h
  · cases h
  · cases h
    exact stopsAt_self _ _

/-! ## Texts -/

/-- The tokens of a text, and the end, tile it. -/
theorem tiles_of_tokensFrom {ts : List Token} (h : tokensFrom position text = .ok ts) :
    ∃ spans, Tiles position text spans ∧
      spans.map Span.token = ts ++ [⟨.stop, position + byteLength text⟩] := by
  fun_induction tokensFrom position text generalizing ts with
  | case1 position =>
    cases h
    exact ⟨_, .nil position, rfl⟩
  | case2 position c rest hblank ih =>
    obtain ⟨spans, htiles, htokens⟩ := ih h
    refine ⟨spans, .blank hblank htiles, ?_⟩
    rw [htokens, byteLength_cons, utf8Size_of_isAsciiBlank hblank, Nat.add_assoc]
  | case3 => cases h
  | case4 position c rest hblank found next left hlexeme hle ih =>
    obtain ⟨ts, hts, rfl⟩ := map_eq_ok.1 h
    obtain ⟨spans, htiles, htokens⟩ := ih hts
    obtain ⟨piece, spans', hpiece, rfl, hcovers, rfl⟩ := covers_of_lexeme hlexeme
    refine ⟨spans' ++ spans, hpiece ▸ .covers hcovers htiles, ?_⟩
    rw [List.map_append, htokens, hpiece, byteLength_append, Nat.add_assoc, List.append_assoc]

/-- A text that has no tokens is refused at one of its characters or at its end. -/
theorem stopsAt_of_tokensFrom (h : tokensFrom position text = .error refusal) :
    StopsAt position text refusal.position := by
  fun_induction tokensFrom position text with
  | case1 => cases h
  | case2 position c rest hblank ih =>
    have hstops : StopsAt (position + byteLength [c]) rest refusal.position := by
      rw [byteLength_cons, utf8Size_of_isAsciiBlank hblank]
      exact ih h
    exact hstops.append [c]
  | case3 position c rest hblank refusal' hlexeme =>
    cases h
    exact stopsAt_of_lexeme hlexeme
  | case4 position c rest hblank found next left hlexeme hle ih =>
    have hrest : tokensFrom next left = .error refusal := by
      cases hts : tokensFrom next left with
      | ok ts =>
        rw [hts] at h
        cases h
      | error refusal' =>
        rw [hts] at h
        exact h
    obtain ⟨piece, spans', hpiece, rfl, -, -⟩ := covers_of_lexeme hlexeme
    rw [hpiece]
    exact (ih hrest).append piece

end Rollup.Spec
