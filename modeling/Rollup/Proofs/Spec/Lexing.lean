import Rollup.Proofs.Outcome
import Rollup.Spec.Parser
import Rollup.Spec.Printer

/-!
# Texts that are read as certain tokens

`Spells text kinds` says that the tokens of a text are of these kinds, wherever the text
stands.  A text is put together from pieces: `Reads text kinds` says that a piece is read
as tokens of these kinds, and what follows it as if it stood alone.  A name goes on as
long as it can, so this is asked only of what does not begin with a character of a name
(`Apart`).

A filter is such a piece from its tilde to the parenthesis that closes it
(`Reads.pattern`).  Its pattern is written either without quotes, where the reader has to
go on up to that parenthesis (`barePattern_of_bareFrom`), or with quotes, where it has to
undo the backslashes (`quotedPattern?_quoted`).
-/

namespace Rollup.Spec

open Outcome

variable {c : Char} {depth : Nat} {text text' rest left : List Char}
  {kinds kinds' : List TokenKind}

/-! ## Patterns without quotes -/

theorem barePattern_closeParen : barePattern 0 (')' :: rest) = ([], ')' :: rest) := by
  rw [barePattern.eq_def]
  rfl

theorem barePattern_backslash :
    barePattern depth ('\\' :: c :: rest) =
      ('\\' :: c :: (barePattern depth rest).1, (barePattern depth rest).2) := by
  rw [barePattern.eq_def]
  rfl

/-- What a text does not begin with, if it begins neither with a last backslash nor with one in
front of a character. -/
theorem ne_backslash (hlast : c = '\\' → rest = [] → False)
    (hmore : ∀ d more, c = '\\' → rest = d :: more → False) : c ≠ '\\' := by
  cases rest with
  | nil => exact fun hc ↦ hlast hc rfl
  | cons d more => exact fun hc ↦ hmore d more hc rfl

/-- How a character is read that ends no pattern. -/
theorem barePattern_cons (hbackslash : c ≠ '\\') (harrow : c = '=' → rest.head? ≠ some '>')
    (hblank : isBlank c = false) (hclose : c = ')' → depth ≠ 0) :
    barePattern depth (c :: rest) =
      let found :=
        barePattern (if c = '(' then depth + 1 else if c = ')' then depth - 1 else depth) rest
      (c :: found.1, found.2) := by
  have hgoes : ¬ (isBlank c || (c = ')' && depth = 0)) = true := by
    simpa [hblank] using hclose
  rw [barePattern.eq_def]
  split
  · rename_i heq
    cases heq
  · rename_i heq
    cases heq
    exact absurd rfl hbackslash
  · rename_i heq
    cases heq
    exact absurd rfl hbackslash
  · rename_i heq
    cases heq
    exact absurd rfl (harrow rfl)
  · rename_i heq
    cases heq
    exact if_neg hgoes

/-- A pattern that needs no quotes ends at the parenthesis behind it. -/
theorem barePattern_of_bareFrom (h : Filter.bareFrom depth text = true)
    (rest : List Char) : barePattern depth (text ++ ')' :: rest) = (text, ')' :: rest) := by
  fun_induction Filter.bareFrom depth text with
  | case1 depth =>
    rw [of_decide_eq_true h]
    exact barePattern_closeParen
  | case2 => cases h
  | case3 depth c text ih =>
    rw [List.cons_append, List.cons_append, barePattern_backslash, ih h]
  | case4 => cases h
  | case5 depth text ih =>
    have hopen : ('(' : Char) ≠ '=' := by decide
    have hclose : ('(' : Char) ≠ ')' := by decide
    rw [List.cons_append, barePattern_cons (by decide) (absurd · hopen) (by decide)
      (absurd · hclose), if_pos rfl, ih h]
  | case6 depth text ih =>
    rw [Bool.and_eq_true, decide_eq_true_eq] at h
    have hopen : (')' : Char) ≠ '=' := by decide
    rw [List.cons_append, barePattern_cons (by decide) (absurd · hopen) (by decide)
      (fun _ ↦ h.1), if_neg (by decide), if_pos rfl, ih h.2]
  | case7 depth c text hend hbackslash harrow hopen hclose ih =>
    simp only [Bool.and_eq_true, Bool.not_eq_true'] at h
    have hc : c ≠ '\\' := ne_backslash hend hbackslash
    have hnext (heq : c = '=') : (text ++ ')' :: rest).head? ≠ some '>' := by
      cases text with
      | nil =>
        intro hhead
        cases hhead
      | cons d text =>
        intro hhead
        cases hhead
        exact harrow text heq rfl
    rw [List.cons_append, barePattern_cons hc hnext h.1.2 (fun h ↦ (hclose h).elim), if_neg hopen,
      if_neg hclose, ih h.2]

/-! ## Patterns with quotes -/

theorem quotedPattern?_backslash (hc : c = '"' ∨ c = '\\') :
    quotedPattern? '"' ('\\' :: c :: rest) =
      (quotedPattern? '"' rest).map fun (pattern, rest) ↦ (c :: pattern, rest) := by
  rw [quotedPattern?]
  rcases hc with rfl | rfl
  · rfl
  · rfl

theorem quotedPattern?_cons (hquote : c ≠ '"') (hbackslash : c ≠ '\\') :
    quotedPattern? '"' (c :: rest) =
      (quotedPattern? '"' rest).map fun (pattern, rest) ↦ (c :: pattern, rest) := by
  rw [quotedPattern?.eq_4 _ _ _ (fun h _ ↦ hbackslash h) (fun _ _ h _ ↦ hbackslash h),
    if_neg hquote]

/-- Between quotes, backslashes are undone. -/
theorem quotedPattern?_quoted (text rest : List Char) :
    quotedPattern? '"' ((text.flatMap fun c ↦ if c = '"' || c = '\\' then ['\\', c] else [c]) ++
      '"' :: rest) = some (text, rest) := by
  induction text with
  | nil => rfl
  | cons c text ih =>
    rw [List.flatMap_cons, List.append_assoc]
    split
    · rename_i hc
      rw [Bool.or_eq_true, decide_eq_true_eq, decide_eq_true_eq] at hc
      rw [List.cons_append, List.cons_append, List.nil_append, quotedPattern?_backslash hc, ih]
      rfl
    · rename_i hc
      rw [Bool.or_eq_true, decide_eq_true_eq, decide_eq_true_eq, not_or] at hc
      rw [List.cons_append, List.nil_append, quotedPattern?_cons hc.1 hc.2, ih]
      rfl

/-! ## Lexemes -/

/-- The tokens of the text are of these kinds, wherever it stands. -/
def Spells (text : List Char) (kinds : List TokenKind) : Prop :=
  ∀ position, ∃ ts, tokensFrom position text = .ok ts ∧ ts.map Token.kind = kinds

theorem Spells.nil : Spells [] [] := by
  intro position
  refine ⟨[], ?_, rfl⟩
  rw [tokensFrom]

theorem Spells.blank (hblank : isAsciiBlank c = true) (h : Spells rest kinds) :
    Spells (c :: rest) kinds := by
  intro position
  obtain ⟨ts, hts, hkinds⟩ := h (position + 1)
  refine ⟨ts, ?_, hkinds⟩
  rw [tokensFrom.eq_def]
  exact (if_pos hblank).trans hts

/-- The tokens that a character begins, in front of those of the text left. -/
theorem Spells.lexeme (hblank : isAsciiBlank c = false)
    (h : ∀ position, ∃ found next, lexeme position c rest = .ok (found, next, left) ∧
      found.map Token.kind = kinds) (hleft : Spells left kinds') :
    Spells (c :: rest) (kinds ++ kinds') := by
  intro position
  obtain ⟨found, next, hlexeme, rfl⟩ := h position
  obtain ⟨ts, hts, rfl⟩ := hleft next
  refine ⟨found ++ ts, ?_, List.map_append⟩
  rw [tokensFrom.eq_def]
  dsimp only
  rw [hblank, if_neg Bool.false_ne_true]
  split
  · rename_i refusal herror
    rw [hlexeme] at herror
    cases herror
  · rename_i found' next' left' hok
    rw [hlexeme] at hok
    cases hok
    rw [hts]
    rfl

/-! ## Pieces of a text -/

/-- What does not begin with a character of a name. -/
def Apart (text : List Char) : Prop := ∀ c ∈ text.head?, isNameChar c = false

theorem Apart.nil : Apart [] := fun _ h ↦ nomatch h

theorem Apart.cons (h : isNameChar c = false) : Apart (c :: rest) := by
  rintro _ ⟨⟩
  exact h

theorem Apart.append (h : Apart text) (h' : Apart rest) : Apart (text ++ rest) := by
  cases text with
  | nil => exact h'
  | cons c text => exact h

/-- A piece of text is read as tokens of these kinds, and then what follows. -/
def Reads (text : List Char) (kinds : List TokenKind) : Prop :=
  ∀ rest kinds', Apart rest → Spells rest kinds' → Spells (text ++ rest) (kinds ++ kinds')

namespace Reads

theorem spells (h : Reads text kinds) : Spells text kinds := by
  have hspells := h [] [] Apart.nil Spells.nil
  rwa [List.append_nil, List.append_nil] at hspells

theorem nil : Reads [] [] := fun _ _ _ hrest ↦ hrest

theorem append (h : Reads text kinds) (h' : Reads text' kinds') (hapart : Apart text') :
    Reads (text ++ text') (kinds ++ kinds') := by
  intro rest others hrest hspells
  rw [List.append_assoc, List.append_assoc]
  exact h _ _ (hapart.append hrest) (h' rest others hrest hspells)

theorem blank (h : Reads text kinds) : Reads (' ' :: text) kinds :=
  fun rest others hrest hspells ↦ (h rest others hrest hspells).blank rfl

/-- A character that is a token by itself, and stays one whatever follows. -/
theorem sign {kind : TokenKind} (hblank : isAsciiBlank c = false)
    (hsign : ∀ position rest, lexeme position c rest = .ok ([⟨kind, position⟩], position + 1, rest))
    (h : Reads text kinds) : Reads (c :: text) (kind :: kinds) := by
  intro rest others hrest hspells
  change Spells _ ([kind] ++ (kinds ++ others))
  exact .lexeme hblank (fun position ↦ ⟨_, _, hsign position _, rfl⟩) (h rest others hrest hspells)

theorem openParen (h : Reads text kinds) : Reads ('(' :: text) (.openParen :: kinds) :=
  h.sign rfl fun _ _ ↦ rfl

theorem closeParen (h : Reads text kinds) : Reads (')' :: text) (.closeParen :: kinds) :=
  h.sign rfl fun _ _ ↦ rfl

theorem comma (h : Reads text kinds) : Reads (',' :: text) (.comma :: kinds) :=
  h.sign rfl fun _ _ ↦ rfl

theorem arrow (h : Reads text kinds) : Reads ('=' :: '>' :: text) (.arrow :: kinds) := by
  intro rest others hrest hspells
  change Spells _ ([.arrow] ++ (kinds ++ others))
  exact .lexeme rfl (fun position ↦ ⟨_, _, rfl, rfl⟩) (h rest others hrest hspells)

end Reads

/-! ## Names -/

/-- Whether the text is a single name. -/
def isName (text : List Char) : Bool := text.head?.any isNameStart && text.all isNameChar

theorem lexeme_of_isNameStart {position : Nat} (h : isNameStart c = true) :
    lexeme position c rest = .ok
      ([⟨.name (String.ofList (c :: rest.takeWhile isNameChar)), position⟩],
      position + (c :: rest.takeWhile isNameChar).length, rest.dropWhile isNameChar) := by
  have hopen : c ≠ '(' := fun heq ↦ absurd (heq ▸ h) (by decide)
  have hclose : c ≠ ')' := fun heq ↦ absurd (heq ▸ h) (by decide)
  have hcomma : c ≠ ',' := fun heq ↦ absurd (heq ▸ h) (by decide)
  have hequals : c ≠ '=' := fun heq ↦ absurd (heq ▸ h) (by decide)
  have htilde : c ≠ '~' := fun heq ↦ absurd (heq ▸ h) (by decide)
  have harrow : ¬ (c = '=' && rest.head? = some '>') = true := by simp [hequals]
  rw [lexeme, if_neg hopen, if_neg hclose, if_neg hcomma, if_neg harrow, if_neg htilde, if_pos h]

theorem not_isAsciiBlank_of_isNameStart (h : isNameStart c = true) : isAsciiBlank c = false := by
  cases hblank : isAsciiBlank c with
  | false => rfl
  | true =>
    simp only [isAsciiBlank, Bool.or_eq_true, decide_eq_true_eq] at hblank
    obtain (((rfl | rfl) | rfl) | rfl) | rfl := hblank <;> exact absurd h (by decide)

/-- A name ends where what follows is apart. -/
theorem Apart.takeWhile_dropWhile {name : List Char} (hname : name.all isNameChar = true)
    (h : Apart rest) :
    (name ++ rest).takeWhile isNameChar = name ∧ (name ++ rest).dropWhile isNameChar = rest := by
  rw [List.all_eq_true] at hname
  rw [List.takeWhile_append_of_pos hname, List.dropWhile_append_of_pos hname]
  cases rest with
  | nil => exact ⟨List.append_nil _, rfl⟩
  | cons c rest =>
    have hc : ¬ isNameChar c = true := ne_true_of_eq_false (h c rfl)
    rw [List.takeWhile_cons_of_neg hc, List.dropWhile_cons_of_neg hc]
    exact ⟨List.append_nil _, rfl⟩

theorem Reads.name {name : List Char} (hname : isName name = true) (h : Reads text kinds)
    (hapart : Apart text) : Reads (name ++ text) (.name (String.ofList name) :: kinds) := by
  intro rest others hrest hspells
  rw [isName, Bool.and_eq_true] at hname
  cases name with
  | nil => exact absurd hname.1 Bool.false_ne_true
  | cons c name =>
    obtain ⟨hstart, hall⟩ := hname
    have hstart : isNameStart c = true := hstart
    rw [List.all_cons, Bool.and_eq_true] at hall
    obtain ⟨htake, hdrop⟩ := (hapart.append hrest).takeWhile_dropWhile hall.2
    rw [List.append_assoc, List.cons_append]
    change Spells _ ([.name (String.ofList (c :: name))] ++ (kinds ++ others))
    refine .lexeme (not_isAsciiBlank_of_isNameStart hstart) (fun position ↦ ?_)
      (h rest others hrest hspells)
    refine ⟨[⟨.name (String.ofList (c :: name)), position⟩], position + (c :: name).length, ?_, rfl⟩
    rw [lexeme_of_isNameStart hstart, htake, hdrop]

/-! ## Filters -/

/-- What a pattern is written as. -/
def written (pattern : List Char) : List Char :=
  if Filter.isBare pattern then pattern else Filter.quotedPattern pattern

/-- A pattern that needs no quotes begins with a character that ends none, and with no quote. -/
theorem begins_of_bareFrom (h : Filter.bareFrom depth (c :: rest) = true) :
    isBlank c = false ∧ (c = '"' || c = '\'') = false := by
  rw [Filter.bareFrom.eq_def] at h
  split at h
  · rename_i heq
    cases heq
  · cases h
  · rename_i heq
    cases heq
    decide
  · cases h
  · rename_i heq
    cases heq
    decide
  · rename_i heq
    cases heq
    decide
  · rename_i heq
    cases heq
    simp only [Bool.and_eq_true, Bool.not_eq_true', decide_eq_true_eq] at h
    obtain ⟨⟨⟨hdouble, hsingle⟩, hblank⟩, -⟩ := h
    refine ⟨hblank, ?_⟩
    rw [decide_eq_false hdouble, decide_eq_false hsingle]
    rfl

theorem written_begins (found : List Char) :
    ∃ c more, written found = c :: more ∧ isAsciiBlank c = false := by
  rw [written]
  split
  · rename_i hbare
    rw [Filter.isBare, Bool.and_eq_true, Bool.not_eq_true', List.isEmpty_eq_false_iff] at hbare
    obtain ⟨c, found, rfl⟩ := List.exists_cons_of_ne_nil hbare.1
    refine ⟨c, found, rfl, eq_false_of_ne_true fun hblank ↦ ?_⟩
    exact ne_true_of_eq_false (begins_of_bareFrom hbare.2).1 (isBlank_of_isAsciiBlank hblank)
  · exact ⟨'"', _, rfl, rfl⟩

theorem pattern_written (position : Nat) (found rest : List Char) :
    pattern position (written found ++ ')' :: rest) = .ok (found, ')' :: rest) := by
  rw [written]
  split
  · rename_i hbare
    rw [Filter.isBare, Bool.and_eq_true, Bool.not_eq_true', List.isEmpty_eq_false_iff] at hbare
    obtain ⟨c, found, rfl⟩ := List.exists_cons_of_ne_nil hbare.1
    have hpattern := barePattern_of_bareFrom hbare.2 rest
    rw [List.cons_append] at hpattern ⊢
    rw [pattern, (begins_of_bareFrom hbare.2).2, if_neg Bool.false_ne_true, hpattern]
    rfl
  · have hquoted := quotedPattern?_quoted found (')' :: rest)
    rw [Filter.quotedPattern, List.append_assoc, List.cons_append, List.singleton_append, pattern,
      if_pos (by decide), hquoted]

/-- A pattern is read behind a tilde if a parenthesis closes the filter. -/
theorem Reads.pattern (found : String) (h : Reads text kinds) :
    Reads ('~' :: (written found.toList ++ ')' :: text))
      (.tilde :: .pattern found :: .closeParen :: kinds) := by
  intro rest others hrest hspells
  obtain ⟨c, more, hwritten, hblank⟩ := written_begins found.toList
  have hbody : (written found.toList ++ ')' :: (text ++ rest)).dropWhile isAsciiBlank =
      written found.toList ++ ')' :: (text ++ rest) := by
    rw [hwritten, List.cons_append, List.dropWhile_cons_of_neg (ne_true_of_eq_false hblank)]
  have harrow (next : List Char) : ¬ ('~' = '=' && next.head? = some '>') = true :=
    Bool.false_ne_true
  rw [List.cons_append, List.append_assoc, List.cons_append]
  change Spells _ ([.tilde, .pattern found] ++ (.closeParen :: kinds ++ others))
  refine .lexeme rfl (fun position ↦ ?_) (h.closeParen rest others hrest hspells)
  rw [lexeme, if_neg (by decide), if_neg (by decide), if_neg (by decide), if_neg (harrow _),
    if_pos rfl, hbody]
  dsimp only
  rw [pattern_written]
  exact ⟨_, _, rfl, by simp⟩

end Rollup.Spec
