import Rollup.Proofs.Spec.Positions
import Rollup.Proofs.Spec.Scanning

/-!
# Where the tokens of a spec are

The tokens of a text stand for spans of it (`Placed`): every span can be cut out of the text and is
read as its token, the spans are disjoint and in order, and what lies outside of them is ASCII
blanks.  The end of the text is the last token, and a pattern stands behind every tilde and nowhere
else.

All of this is known of the pieces that tile a text (`Tiles`).  Here it is said in terms of byte
offsets (`placed_of_tiles`), one property after the other, each by induction on the tiles.  A spec
that is refused, by the reader of tokens or by that of the pipeline, is refused at such an offset,
too (`Offends.stopsAt`, `tokens_placed`).
-/

namespace Rollup.Spec

open Outcome

variable {text : String} {front cs piece behind : List Char} {found spans : List Span}
  {position : Nat} {kind : TokenKind} {kinds : List TokenKind}

/-- At this byte offset a character of the text begins, or the text ends. -/
def Boundary (text : String) (offset : Nat) : Prop :=
  String.Pos.Raw.IsValid text ⟨offset⟩ ∧ offset ≤ text.utf8ByteSize

/-- A pattern stands behind every tilde, and nowhere else. -/
def Tilded (kinds : List TokenKind) : Prop :=
  (∀ found, kinds[0]? ≠ some (.pattern found)) ∧
    ∀ i, (∃ found, kinds[i + 1]? = some (.pattern found)) ↔ kinds[i]? = some .tilde

/-- The tokens of a text and their places. -/
structure Placed (text : String) (spans : List Span) : Prop where
  boundary : ∀ s ∈ spans, Boundary text s.token.position
  increasing : spans.Pairwise fun s t ↦ s.token.position < t.token.position
  /-- What is cut out of the text is read as the token, given what follows. -/
  stands : ∀ s ∈ spans, ∃ piece behind, slice text s.token.position s.stop = .ok piece ∧
    slice text s.stop text.utf8ByteSize = .ok behind ∧
    Stands s.token.kind piece.toList behind.toList
  disjoint : spans.Pairwise fun s t ↦ s.stop ≤ t.token.position
  outside : ∀ i < text.utf8ByteSize, (∀ s ∈ spans, i < s.token.position ∨ s.stop ≤ i) →
    ∃ c, isAsciiBlank c = true ∧ slice text i (i + 1) = .ok (String.ofList [c])
  ends : ∃ front, spans.map Span.token = front ++ [⟨.stop, text.utf8ByteSize⟩] ∧
    ∀ t ∈ front, t.kind ≠ .stop
  tilded : Tilded (spans.map fun s ↦ s.token.kind)

theorem boundary_of_toList (h : text.toList = front ++ cs) : Boundary text (byteLength front) := by
  refine ⟨String.Pos.Raw.isValid_eq_true_iff.1 (isValid_of_toList h), ?_⟩
  rw [byteLength_front h]
  exact Nat.le_add_right _ _

theorem boundary_of_stopsAt {offset : Nat} (h : StopsAt 0 text.toList offset) :
    Boundary text offset := by
  obtain ⟨front, behind, htext, rfl⟩ := h
  rw [Nat.zero_add]
  exact boundary_of_toList htext

/-! ## What spans stand for -/

/-- The span is that of a piece of the text, and the piece is read as the token. -/
def Span.In (text : List Char) (s : Span) : Prop :=
  ∃ front piece behind, text = front ++ (piece ++ behind) ∧
    s = .of s.token.kind (byteLength front) piece ∧ Stands s.token.kind piece behind

theorem Covers.in (h : Covers (byteLength front) piece behind found) :
    ∀ s ∈ found, s.In (front ++ (piece ++ behind)) := by
  cases h with
  | plain _ _ h =>
    rintro s hs
    obtain rfl := List.mem_singleton.1 hs
    exact ⟨front, piece, behind, rfl, rfl, h⟩
  | @filter pattern blanks piece behind hblanks h =>
    have htilde : (Span.of .tilde (byteLength front) ['~']).In
        (front ++ ('~' :: (blanks ++ piece) ++ behind)) :=
      ⟨front, ['~'], blanks ++ piece ++ behind, rfl, rfl, .tilde⟩
    have hpattern : (Span.of (.pattern pattern)
        (byteLength front + 1 + byteLength blanks) piece).In
        (front ++ ('~' :: (blanks ++ piece) ++ behind)) := by
      refine ⟨front ++ '~' :: blanks, piece, behind, by simp, ?_, h⟩
      rw [byteLength_append, byteLength_cons, ← Nat.add_assoc]
      rfl
    exact List.forall_mem_cons.2 ⟨htilde, List.forall_mem_singleton.2 hpattern⟩

theorem Tiles.in (h : Tiles position cs spans) (hposition : byteLength front = position) :
    ∀ s ∈ spans, s.In (front ++ cs) := by
  induction h generalizing front with
  | nil position =>
    subst hposition
    exact List.forall_mem_singleton.2 ⟨front, [], [], rfl, rfl, .stop⟩
  | @blank position c rest spans hblank h ih =>
    have hbehind : byteLength (front ++ [c]) = position + 1 := by
      rw [byteLength_append, hposition, byteLength_cons, utf8Size_of_isAsciiBlank hblank]
      rfl
    rw [List.append_cons]
    exact ih hbehind
  | @covers position piece behind found spans hcovers h ih =>
    subst hposition
    refine List.forall_mem_append.2 ⟨hcovers.in, ?_⟩
    rw [← List.append_assoc]
    exact ih (byteLength_append front piece)

theorem Tiles.stopsAt (h : Tiles 0 cs spans) : ∀ s ∈ spans, StopsAt 0 cs s.token.position := by
  intro s hs
  obtain ⟨front, piece, behind, htext, heq, -⟩ := h.in byteLength_nil s hs
  refine ⟨front, piece ++ behind, htext, ?_⟩
  rw [heq, Nat.zero_add]
  rfl

/-! ## Order -/

theorem byteLength_pos (h : piece ≠ []) : 0 < byteLength piece := by
  obtain ⟨c, more, rfl⟩ := List.exists_cons_of_ne_nil h
  have hpos := c.utf8Size_pos
  rw [byteLength_cons]
  omega

theorem Stands.ne_nil (h : Stands kind piece behind) (hkind : kind ≠ .stop) : piece ≠ [] := by
  cases h with
  | name hname =>
    rintro rfl
    cases hname
  | bare hne => exact hne
  | stop => exact absurd rfl hkind
  | _ => exact List.cons_ne_nil _ _

/-- One span is over before the other begins. -/
def Span.Before (s t : Span) : Prop :=
  s.token.position < t.token.position ∧ s.stop ≤ t.token.position

theorem Covers.ordered (h : Covers position piece behind found) :
    found.Pairwise Span.Before ∧
      ∀ s ∈ found, position ≤ s.token.position ∧ s.token.position < s.stop ∧
        s.stop ≤ position + byteLength piece := by
  cases h with
  | plain hne =>
    have hpos := byteLength_pos hne
    refine ⟨List.pairwise_singleton _ _,
      List.forall_mem_singleton.2 ⟨Nat.le_refl _, ?_, Nat.le_refl _⟩⟩
    exact Nat.lt_add_of_pos_right hpos
  | @filter pattern blanks piece behind hblanks h =>
    have hpos := byteLength_pos (h.ne_nil TokenKind.noConfusion)
    have htilde : '~'.utf8Size = 1 := rfl
    refine ⟨List.pairwise_pair.2 ⟨?_, ?_⟩, List.forall_mem_cons.2 ⟨⟨?_, ?_, ?_⟩,
      List.forall_mem_singleton.2 ⟨?_, ?_, ?_⟩⟩⟩ <;>
    simp only [Span.of, byteLength_cons, byteLength_append, byteLength_nil, htilde] <;> omega

theorem Tiles.ordered (h : Tiles position cs spans) :
    spans.Pairwise Span.Before ∧ ∀ s ∈ spans, position ≤ s.token.position := by
  induction h with
  | nil position =>
    exact ⟨List.pairwise_singleton _ _, List.forall_mem_singleton.2 (Nat.le_refl _)⟩
  | blank hblank h ih => exact ⟨ih.1, fun s hs ↦ Nat.le_of_succ_le (ih.2 s hs)⟩
  | @covers position piece behind found spans hcovers h ih =>
    obtain ⟨hfound, hbounds⟩ := hcovers.ordered
    obtain ⟨hspans, hbehind⟩ := ih
    refine ⟨List.pairwise_append.2 ⟨hfound, hspans, fun s hs t ht ↦ ?_⟩,
      List.forall_mem_append.2 ⟨fun s hs ↦ (hbounds s hs).1, fun s hs ↦ ?_⟩⟩
    · obtain ⟨-, hlt, hle⟩ := hbounds s hs
      have hstop := Nat.le_trans hle (hbehind t ht)
      exact ⟨Nat.lt_of_lt_of_le hlt hstop, hstop⟩
    · exact Nat.le_trans (Nat.le_add_right _ _) (hbehind s hs)

/-! ## The end, and tildes -/

theorem Covers.ne_stop (h : Covers position piece behind found) :
    ∀ t ∈ found.map Span.token, t.kind ≠ .stop := by
  cases h with
  | plain _ hplain =>
    refine List.forall_mem_singleton.2 ?_
    rintro rfl
    cases hplain
  | filter =>
    exact List.forall_mem_cons.2 ⟨TokenKind.noConfusion,
      List.forall_mem_singleton.2 TokenKind.noConfusion⟩

theorem Tiles.ends (h : Tiles position cs spans) :
    ∃ front, spans.map Span.token = front ++ [⟨.stop, position + byteLength cs⟩] ∧
      ∀ t ∈ front, t.kind ≠ .stop := by
  induction h with
  | nil position => exact ⟨[], rfl, List.forall_mem_nil _⟩
  | blank hblank h ih =>
    rw [byteLength_cons, utf8Size_of_isAsciiBlank hblank, ← Nat.add_assoc]
    exact ih
  | @covers position piece behind found spans hcovers h ih =>
    obtain ⟨front, hspans, hfront⟩ := ih
    refine ⟨found.map Span.token ++ front, ?_, List.forall_mem_append.2 ⟨hcovers.ne_stop, hfront⟩⟩
    rw [List.map_append, hspans, byteLength_append, Nat.add_assoc, List.append_assoc]

theorem Tilded.plain (hkind : kind.isPlain = true) (h : Tilded kinds) : Tilded (kind :: kinds) := by
  refine ⟨?_, fun i ↦ ?_⟩
  · rintro found hfound
    cases hfound
    cases hkind
  · cases i with
    | zero =>
      refine ⟨fun ⟨found, hfound⟩ ↦ absurd hfound (h.1 found), fun htilde ↦ ?_⟩
      cases htilde
      cases hkind
    | succ i => exact h.2 i

theorem Tilded.filter (found : String) (h : Tilded kinds) :
    Tilded (.tilde :: .pattern found :: kinds) := by
  refine ⟨nofun, fun i ↦ ?_⟩
  match i with
  | 0 => exact ⟨fun _ ↦ rfl, fun _ ↦ ⟨found, rfl⟩⟩
  | 1 => exact ⟨fun ⟨found', hfound⟩ ↦ absurd hfound (h.1 found'), nofun⟩
  | i + 2 => exact h.2 i

theorem Tiles.tilded (h : Tiles position cs spans) :
    Tilded (spans.map fun s ↦ s.token.kind) := by
  induction h with
  | nil position =>
    refine ⟨nofun, fun i ↦ ⟨nofun, fun htilde ↦ ?_⟩⟩
    cases i <;> cases htilde
  | blank hblank h ih => exact ih
  | covers hcovers h ih =>
    cases hcovers with
    | plain _ hplain _ => exact ih.plain hplain
    | @filter pattern _ _ _ _ _ => exact ih.filter pattern

/-! ## Outside of all spans -/

/-- A blank of the text is at this byte offset. -/
def BlankAt (position : Nat) (cs : List Char) (offset : Nat) : Prop :=
  ∃ front c behind, cs = front ++ c :: behind ∧ isAsciiBlank c = true ∧
    offset = position + byteLength front

theorem BlankAt.append {offset : Nat} (front : List Char)
    (h : BlankAt (position + byteLength front) cs offset) :
    BlankAt position (front ++ cs) offset := by
  obtain ⟨front', c, behind, rfl, hblank, rfl⟩ := h
  refine ⟨front ++ front', c, behind, (List.append_assoc ..).symm, hblank, ?_⟩
  rw [byteLength_append, Nat.add_assoc]

theorem BlankAt.append_right {offset : Nat} (h : BlankAt position cs offset) (behind : List Char) :
    BlankAt position (cs ++ behind) offset := by
  obtain ⟨front, c, behind', rfl, hblank, rfl⟩ := h
  exact ⟨front, c, behind' ++ behind, List.append_assoc .., hblank, rfl⟩

/-- The first of some characters is a blank, or the offset is behind it. -/
theorem BlankAt.cons {c : Char} {offset : Nat} (hblank : isAsciiBlank c = true)
    (h : offset ≠ position → BlankAt (position + 1) cs offset) :
    BlankAt position (c :: cs) offset := by
  by_cases hfirst : offset = position
  · exact ⟨[], c, cs, rfl, hblank, hfirst⟩
  · have hbehind : BlankAt (position + byteLength [c]) cs offset := by
      rw [byteLength_cons, utf8Size_of_isAsciiBlank hblank]
      exact h hfirst
    exact hbehind.append [c]

/-- Every offset into blanks is that of one of them. -/
theorem blankAt_of_forall {offset : Nat} (h : ∀ c ∈ cs, isAsciiBlank c = true)
    (hle : position ≤ offset) (hlt : offset < position + byteLength cs) :
    BlankAt position cs offset := by
  induction cs generalizing position with
  | nil => exact absurd (Nat.lt_of_le_of_lt hle hlt) (Nat.lt_irrefl _)
  | cons c cs ih =>
    rw [List.forall_mem_cons] at h
    rw [byteLength_cons, utf8Size_of_isAsciiBlank h.1] at hlt
    exact .cons h.1 fun hne ↦ ih h.2 (by omega) (by omega)

theorem Covers.outside {offset : Nat} (h : Covers position piece behind found)
    (hle : position ≤ offset) (hlt : offset < position + byteLength piece)
    (hout : ∀ s ∈ found, offset < s.token.position ∨ s.stop ≤ offset) :
    BlankAt position piece offset := by
  cases h with
  | @plain kind =>
    rcases hout _ List.mem_cons_self with hbefore | hbehind
    · exact absurd hbefore (Nat.not_lt.2 hle)
    · exact absurd hbehind (Nat.not_le.2 hlt)
  | @filter pattern blanks piece behind hblanks =>
    rw [List.forall_mem_cons, List.forall_mem_singleton] at hout
    have htilde : '~'.utf8Size = 1 := rfl
    simp only [Span.of, byteLength_cons, byteLength_append, byteLength_nil, htilde] at hout hlt
    have hmiddle : BlankAt (position + byteLength ['~']) blanks offset :=
      blankAt_of_forall hblanks (by simp only [byteLength_cons, byteLength_nil, htilde]; omega)
        (by simp only [byteLength_cons, byteLength_nil, htilde]; omega)
    exact (hmiddle.append_right piece).append ['~']

theorem Tiles.outside {offset : Nat} (h : Tiles position cs spans) (hle : position ≤ offset)
    (hlt : offset < position + byteLength cs)
    (hout : ∀ s ∈ spans, offset < s.token.position ∨ s.stop ≤ offset) :
    BlankAt position cs offset := by
  induction h with
  | nil position => exact absurd (Nat.lt_of_le_of_lt hle hlt) (Nat.lt_irrefl _)
  | blank hblank h ih =>
    rw [byteLength_cons, utf8Size_of_isAsciiBlank hblank] at hlt
    exact .cons hblank fun hne ↦ ih (by omega) (by omega) hout
  | @covers position piece behind found spans hcovers h ih =>
    rw [List.forall_mem_append] at hout
    rw [byteLength_append] at hlt
    by_cases hpiece : offset < position + byteLength piece
    · exact (hcovers.outside hle hpiece hout.1).append_right behind
    · exact (ih (Nat.not_lt.1 hpiece) (by omega) hout.2).append piece

/-! ## Byte offsets -/

theorem placed_of_tiles (h : Tiles 0 text.toList spans) : Placed text spans where
  boundary s hs := boundary_of_stopsAt (h.stopsAt s hs)
  increasing := h.ordered.1.imp fun hbefore ↦ hbefore.1
  stands s hs := by
    obtain ⟨front, piece, behind, htext, heq, hstands⟩ := h.in byteLength_nil s hs
    have hbehind : text.toList = (front ++ piece) ++ behind :=
      htext.trans (List.append_assoc ..).symm
    have hslice := slice_rest hbehind
    rw [byteLength_append] at hslice
    refine ⟨.ofList piece, .ofList behind, ?_, ?_, ?_⟩
    · rw [heq]
      exact slice_of_toList htext
    · rw [heq]
      exact hslice
    · rwa [String.toList_ofList, String.toList_ofList]
  disjoint := h.ordered.1.imp fun hbefore ↦ hbefore.2
  outside i hi hout := by
    have hlt : i < 0 + byteLength text.toList := by rwa [Nat.zero_add, byteLength_toList]
    obtain ⟨front, c, behind, htext, hblank, rfl⟩ := h.outside (Nat.zero_le i) hlt hout
    rw [← List.singleton_append] at htext
    have hslice := slice_of_toList htext
    rw [byteLength_cons, utf8Size_of_isAsciiBlank hblank] at hslice
    refine ⟨c, hblank, ?_⟩
    rw [Nat.zero_add]
    exact hslice
  ends := by
    obtain ⟨front, hspans, hfront⟩ := h.ends
    rw [Nat.zero_add, byteLength_toList] at hspans
    exact ⟨front, hspans, hfront⟩
  tilded := h.tilded

theorem exists_placed {ts : List Token} (h : tokensFrom 0 text.toList = .ok ts) :
    ∃ spans, spans.map Span.token = ts ++ [⟨.stop, text.utf8ByteSize⟩] ∧ Placed text spans := by
  obtain ⟨spans, htiles, htokens⟩ := tiles_of_tokensFrom h
  rw [Nat.zero_add, byteLength_toList] at htokens
  exact ⟨spans, htokens, placed_of_tiles htiles⟩

/-- A spec is refused at one of its characters or at its end. -/
theorem Offends.stopsAt {refusal : Refusal} (h : Offends text refusal) :
    StopsAt 0 text.toList refusal.position := by
  rcases h with hrefused | ⟨ts, hts, t, ht, hposition⟩
  · rw [tokens] at hrefused
    cases htokens : tokensFrom 0 text.toList with
    | ok ts =>
      rw [htokens] at hrefused
      cases hrefused
    | error refusal' =>
      rw [htokens] at hrefused
      cases hrefused
      exact stopsAt_of_tokensFrom htokens
  · obtain ⟨found, hfound, rfl⟩ := map_eq_ok.1 hts
    obtain ⟨spans, htiles, hspans⟩ := tiles_of_tokensFrom hfound
    rw [Nat.zero_add] at hspans
    rw [← hspans] at ht
    obtain ⟨s, hs, rfl⟩ := List.mem_map.1 ht
    rw [← hposition]
    exact htiles.stopsAt s hs

theorem boundary_stop (text : String) : Boundary text text.utf8ByteSize := by
  rw [← byteLength_toList]
  exact boundary_of_toList (List.append_nil _).symm

/-! ## Parsing the tokens -/

/-- The token at a cursor is that in front of the tokens left. -/
theorem lookup_concat (ts : List Token) (stop cursor : Nat) :
    lookup (ts ++ [⟨.stop, stop⟩]) cursor = .ok (Spec.front stop (ts.drop cursor)) := by
  rw [lookup, List.length_append, List.length_singleton, Nat.add_sub_cancel]
  by_cases hlt : cursor < ts.length
  · rw [Nat.min_eq_left (Nat.le_of_lt hlt), List.getElem?_append_left hlt,
      List.getElem?_eq_getElem hlt, List.drop_eq_getElem_cons hlt]
    rfl
  · rw [Nat.min_eq_right (Nat.not_lt.1 hlt), List.getElem?_append_right (Nat.le_refl _),
      Nat.sub_self, List.drop_eq_nil_of_le (Nat.not_lt.1 hlt)]
    rfl

/-- Behind a token are those left behind it, and no cursor leaves the end. -/
theorem advance_concat {ts : List Token} (h : ∀ t ∈ ts, t.kind ≠ .stop) (stop : Nat) {cursor : Nat}
    (hcursor : cursor ≤ ts.length) :
    ∃ next, advance (ts ++ [⟨.stop, stop⟩]) cursor = .ok next ∧ next ≤ ts.length ∧
      ts.drop next = (ts.drop cursor).tail := by
  rw [advance, lookup_concat]
  rcases Nat.lt_or_eq_of_le hcursor with hlt | rfl
  · have hne := h ts[cursor] (List.getElem_mem hlt)
    refine ⟨cursor + 1, ?_, hlt, by rw [List.tail_drop]⟩
    rw [List.drop_eq_getElem_cons hlt]
    exact congrArg Except.ok (if_neg hne)
  · refine ⟨ts.length, ?_, Nat.le_refl _, ?_⟩
    · rw [List.drop_length]
      rfl
    · rw [List.drop_length]
      rfl

/-- A name can be cut behind its first letter, which takes one byte. -/
theorem cut_name {s : Span} {name : String} (h : Placed text spans) (hs : s ∈ spans)
    (hname : s.token.kind = .name name) :
    slice name 0 1 = .ok (String.ofList (name.toList.take 1)) ∧
      slice name 1 name.utf8ByteSize = .ok (String.ofList (name.toList.drop 1)) := by
  obtain ⟨piece, behind, -, -, hstands⟩ := h.stands s hs
  rw [hname] at hstands
  generalize piece.toList = letters at hstands
  cases hstands with
  | name hall =>
    cases letters with
    | nil => cases hall
    | cons c rest =>
      rw [isName, Bool.and_eq_true, List.all_eq_true] at hall
      have hc : c.utf8Size = 1 := utf8Size_of_isNameChar (hall.2 c List.mem_cons_self)
      have hletters : (String.ofList (c :: rest)).toList = [c] ++ rest := String.toList_ofList
      have hfirst := slice_of_toList (hletters.trans (List.nil_append _).symm)
      have hrest := slice_rest hletters
      rw [byteLength_cons, hc, byteLength_nil] at hfirst hrest
      rw [hletters]
      exact ⟨hfirst, hrest⟩

/-- A scan of a text by byte offsets never halts at a cut: it finds the tokens that the text has, or
refuses it as the reader does.  The tokens stand for spans of the text; who parses them finds one
at every cursor, and can cut every name behind its first letter.  Where the text has no tokens, or
they spell no pipeline, it is refused at an offset at which a character begins or the text ends. -/
theorem tokens_placed (text : String) :
    scan text = (tokens text).mapError .refused ∧
      Within (Boundary text) (fun ts ↦
        (∃ spans, spans.map Span.token = ts ∧ Placed text spans) ∧
          (∀ cursor < ts.length,
            lookup ts cursor = .ok (Spec.front text.utf8ByteSize (ts.dropLast.drop cursor)) ∧
              ∃ next < ts.length, advance ts cursor = .ok next ∧
                ts.dropLast.drop next = (ts.dropLast.drop cursor).tail) ∧
          ∀ name position, ⟨.name name, position⟩ ∈ ts →
            slice name 0 1 = .ok (String.ofList (name.toList.take 1)) ∧
              slice name 1 name.utf8ByteSize = .ok (String.ofList (name.toList.drop 1)))
        (tokens text) ∧
      Within (Boundary text) (fun _ ↦ True) (parse text) := by
  refine ⟨scan_eq text, ?_⟩
  rw [tokens, parse, byteLength_toList]
  cases htokens : tokensFrom 0 text.toList with
  | error refusal =>
    have hrefused := boundary_of_stopsAt (stopsAt_of_tokensFrom htokens)
    exact ⟨hrefused, hrefused⟩
  | ok ts =>
    obtain ⟨spans, hspans, hplaced⟩ := exists_placed htokens
    obtain ⟨front, hfront, hstop⟩ := hplaced.ends
    obtain rfl : ts = front := List.append_cancel_right (hspans.symm.trans hfront)
    refine ⟨⟨⟨spans, hspans, hplaced⟩, fun cursor hcursor ↦ ?_, fun name position hname ↦ ?_⟩, ?_⟩
    · rw [List.length_append, List.length_singleton] at hcursor ⊢
      rw [List.dropLast_concat]
      obtain ⟨next, hnext, hle, hleft⟩ :=
        advance_concat hstop text.utf8ByteSize (Nat.le_of_lt_succ hcursor)
      exact ⟨lookup_concat ts _ cursor, next, Nat.lt_succ_of_le hle, hnext, hleft⟩
    · have hmem : ⟨.name name, position⟩ ∈ spans.map Span.token := hspans ▸ hname
      obtain ⟨s, hs, htoken⟩ := List.mem_map.1 hmem
      exact cut_name hplaced hs (congrArg Token.kind htoken)
    · refine within_pipelineOf (boundary_stop text) fun t ht ↦ ?_
      have hmem : t ∈ spans.map Span.token := hspans ▸ List.mem_append_left _ ht
      obtain ⟨s, hs, rfl⟩ := List.mem_map.1 hmem
      exact hplaced.boundary s hs

/-- A character of two bytes cannot be cut in two, and the scan of a pattern with one does not. -/
example : slice "é" 1 2 = .error (.badSlice 1 2) ∧
    scan "f~(é)) c" = .ok [⟨.name "f", 0⟩, ⟨.tilde, 1⟩, ⟨.pattern "(é)", 2⟩, ⟨.closeParen, 6⟩,
      ⟨.name "c", 8⟩, ⟨.stop, 9⟩] := by
  decide +kernel

end Rollup.Spec
