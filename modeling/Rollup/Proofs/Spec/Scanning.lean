import Mathlib.Data.String.Basic
import Rollup.Proofs.Spec.Spans
import Rollup.Proofs.Spec.Scanner

/-!
# Scanning by byte offsets never halts

A scan by byte offsets finds the tokens that the reader of characters finds, or refuses the text
as it does (`scan_eq`).  So it never cuts the text inside a character.

It is always between two characters: some of the text has been scanned, `front`, its position is
`byteLength front`, and the reader is given the rest.  There the bytes that are left are those of
the rest (`drop_ofString`), and a cut up to any other such position has a result
(`slice_of_toList`).

| Scanner | Reader |
|---|---|
| `skip` | `takeWhile`, `skip_eq` |
| `scanQuoted` | `quotedPattern?`, `scanQuoted_indexed` |
| `scanBare` | `barePattern`, `scanBare_indexed` |
| `scanPattern` | `pattern`, `scanPattern_eq` |
| `scanToken` | `lexeme`, `scanToken_eq` |
| `scanFrom` | `tokensFrom`, `scanFrom_eq` |
-/

namespace Rollup.Spec

open Outcome

variable {c : Char} {front rest left : List Char} {text : String} {position offset : Nat}

/-! ## Bytes of characters -/

/-- The bytes of some characters. -/
def utf8 (text : List Char) : Bytes := text.flatMap String.utf8EncodeChar

theorem toList_loop (bytes : ByteArray) (i : Nat) (done : Bytes) :
    ByteArray.toList.loop bytes i done = done.reverse ++ bytes.data.toList.drop i := by
  fun_induction ByteArray.toList.loop bytes i done with
  | case1 i done hlt ih =>
    have hget : bytes.get! i = bytes.data.toList[i] := getElem!_pos bytes.data i hlt
    rw [ih, hget, List.reverse_cons, List.append_assoc, List.singleton_append,
      ← List.drop_eq_getElem_cons hlt]
  | case2 i done hge =>
    rw [List.drop_eq_nil_of_le (Nat.le_of_not_lt hge), List.append_nil]

theorem ofString_eq (text : String) : Bytes.ofString text = utf8 text.toList := by
  have hbytes : text.toByteArray = (text.toList.flatMap String.utf8EncodeChar).toByteArray := by
    conv_lhs => rw [← String.ofList_toList (s := text), String.toByteArray_ofList]
    rfl
  rw [Bytes.ofString, String.toUTF8_eq_toByteArray, ByteArray.toList, toList_loop, hbytes,
    List.toList_data_toByteArray]
  rfl

theorem utf8_append (text text' : List Char) : utf8 (text ++ text') = utf8 text ++ utf8 text' :=
  List.flatMap_append

theorem length_utf8 (text : List Char) : (utf8 text).length = byteLength text := by
  induction text with
  | nil => rfl
  | cons c text ih =>
    rw [utf8] at ih
    rw [utf8, List.flatMap_cons, List.length_append, ih, String.length_utf8EncodeChar,
      byteLength_cons]

theorem byteLength_eq_utf8Len (text : List Char) : byteLength text = String.utf8Len text := by
  induction text with
  | nil => rfl
  | cons c text ih => rw [byteLength_cons, ih, String.utf8Len_cons, Nat.add_comm]

theorem byteLength_toList (text : String) : byteLength text.toList = text.utf8ByteSize := by
  rw [byteLength_eq_utf8Len, String.utf8Len_toList]

theorem byteLength_front (h : text.toList = front ++ rest) :
    text.utf8ByteSize = byteLength front + byteLength rest := by
  rw [← byteLength_toList, h, byteLength_append]

/-- What is left of the bytes behind some characters. -/
theorem drop_ofString (h : text.toList = front ++ rest) :
    (Bytes.ofString text).drop (byteLength front) = utf8 rest := by
  rw [ofString_eq, h, utf8_append, ← length_utf8, List.drop_left]

theorem getElem?_ofString (h : text.toList = front ++ rest) :
    (Bytes.ofString text)[byteLength front]? = (utf8 rest).head? := by
  rw [← drop_ofString h, List.head?_drop]

theorem utf8Size_ofUInt8 {b : UInt8} : (Char.ofUInt8 b).utf8Size = 1 ↔ b.toNat ≤ 127 := by
  rw [Char.utf8Size_eq_one_iff, UInt32.le_iff_toNat_le]
  exact Iff.rfl

theorem ofUInt8_toUInt8 (h : c.utf8Size = 1) : Char.ofUInt8 c.val.toUInt8 = c := by
  rw [Char.utf8Size_eq_one_iff, UInt32.le_iff_toNat_le] at h
  have hlt : c.val.toNat < 256 := Nat.lt_of_le_of_lt h (by decide)
  refine Char.ext (UInt32.toNat_inj.1 ?_)
  show c.val.toUInt8.toUInt32.toNat = c.val.toNat
  rw [UInt8.toNat_toUInt32, UInt32.toNat_toUInt8]
  exact Nat.mod_eq_of_lt hlt

/-- A character of several bytes begins with one that stands for no character of one byte. -/
theorem utf8EncodeChar_of_ne_one (h : c.utf8Size ≠ 1) :
    ∃ b more, String.utf8EncodeChar c = b :: more ∧ 127 < b.toNat := by
  have hlarge : ¬ c.val.toNat ≤ 127 := by
    rwa [Ne, Char.utf8Size_eq_one_iff, UInt32.le_iff_toNat_le] at h
  have hlead (low high : Nat) (hhigh : 192 ≤ high) (hlow : low + high < 256) :
      127 < (UInt8.ofNat (low + high)).toNat := by
    rw [UInt8.toNat_ofNat_of_lt' hlow]
    omega
  rw [String.utf8EncodeChar, if_neg hlarge]
  split
  · exact ⟨_, _, rfl, hlead _ 192 (Nat.le_refl _) (by omega)⟩
  · split
    · exact ⟨_, _, rfl, hlead _ 224 (by decide) (by omega)⟩
    · exact ⟨_, _, rfl, hlead _ 240 (by decide) (by omega)⟩

/-- The first byte of a character of one byte stands for the character.  That of any other one
stands for no character of one byte. -/
theorem utf8_cons (c : Char) (rest : List Char) :
    ∃ b more, utf8 (c :: rest) = b :: more ∧
      (Char.ofUInt8 b = c ∧ more = utf8 rest ∨ (Char.ofUInt8 b).utf8Size ≠ 1 ∧ c.utf8Size ≠ 1) := by
  by_cases hsize : c.utf8Size = 1
  · refine ⟨c.val.toUInt8, utf8 rest, ?_, .inl ⟨ofUInt8_toUInt8 hsize, rfl⟩⟩
    rw [utf8, List.flatMap_cons, String.utf8EncodeChar_eq_singleton hsize]
    rfl
  · obtain ⟨b, more, hencode, hb⟩ := utf8EncodeChar_of_ne_one hsize
    refine ⟨b, more ++ utf8 rest, ?_, .inr ⟨?_, hsize⟩⟩
    · rw [utf8, List.flatMap_cons, hencode]
      rfl
    · rw [Ne, utf8Size_ofUInt8]
      exact Nat.not_le.2 hb

/-! ## Skipping and cutting -/

/-- The bytes of the characters of a kind whose members take one byte each. -/
theorem length_takeWhile_utf8 {p : Char → Bool} (hp : ∀ c, p c = true → c.utf8Size = 1)
    (text : List Char) :
    ((utf8 text).takeWhile fun b ↦ p (.ofUInt8 b)).length = byteLength (text.takeWhile p) := by
  induction text with
  | nil => rfl
  | cons c text ih =>
    obtain ⟨b, more, hutf8, hb | ⟨hb, hc⟩⟩ := utf8_cons c text
    · obtain ⟨rfl, rfl⟩ := hb
      rw [hutf8]
      cases hkind : p (.ofUInt8 b) with
      | true =>
        rw [List.takeWhile_cons_of_pos (p := fun b ↦ p (.ofUInt8 b)) hkind,
          List.takeWhile_cons_of_pos hkind, byteLength_cons, hp _ hkind, List.length_cons, ih,
          Nat.add_comm]
      | false =>
        rw [List.takeWhile_cons_of_neg (p := fun b ↦ p (.ofUInt8 b)) (ne_true_of_eq_false hkind),
          List.takeWhile_cons_of_neg (ne_true_of_eq_false hkind)]
        rfl
    · have hbyte : ¬ p (.ofUInt8 b) = true := fun hkind ↦ hb (hp _ hkind)
      rw [hutf8, List.takeWhile_cons_of_neg (p := fun b ↦ p (.ofUInt8 b)) hbyte,
        List.takeWhile_cons_of_neg fun hkind ↦ hc (hp _ hkind)]
      rfl

theorem skip_eq {p : Char → Bool} (hp : ∀ c, p c = true → c.utf8Size = 1)
    (h : text.toList = front ++ rest) :
    skip p (Bytes.ofString text) (byteLength front) =
      byteLength front + byteLength (rest.takeWhile p) := by
  rw [skip, drop_ofString h, length_takeWhile_utf8 hp]

/-- At an offset between two characters the text can be cut. -/
theorem isValid_of_toList (h : text.toList = front ++ rest) :
    String.Pos.Raw.isValid text ⟨byteLength front⟩ = true := by
  have hsplit : text = String.ofList front ++ String.ofList rest := by
    rw [← String.ofList_append, ← h, String.ofList_toList]
  rw [String.Pos.Raw.isValid_eq_true_iff, String.Pos.Raw.isValid_iff_exists_append]
  refine ⟨String.ofList front, String.ofList rest, hsplit, String.Pos.Raw.ext ?_⟩
  rw [String.byteIdx_rawEndPos, ← byteLength_toList, String.toList_ofList]

theorem slice_of_toList {piece behind : List Char} (h : text.toList = front ++ (piece ++ behind)) :
    slice text (byteLength front) (byteLength front + byteLength piece) =
      .ok (String.ofList piece) := by
  have hsplit : text = String.ofList (front ++ piece ++ behind) := by
    rw [List.append_assoc, ← h, String.ofList_toList]
  have hstop : text.toList = front ++ piece ++ behind := by rw [h, List.append_assoc]
  have hvalid := isValid_of_toList hstop
  rw [byteLength_append] at hvalid
  have hall : (true && true && true) = true := rfl
  rw [slice, isValid_of_toList h, hvalid, decide_eq_true (Nat.le_add_right _ _), if_pos hall,
    hsplit, byteLength_eq_utf8Len, byteLength_eq_utf8Len, String.extract_of_valid]

/-- All the text that is left. -/
theorem slice_rest (h : text.toList = front ++ rest) :
    slice text (byteLength front) text.utf8ByteSize = .ok (String.ofList rest) := by
  have hrest : text.toList = front ++ (rest ++ []) := by rw [List.append_nil, h]
  rw [byteLength_front h]
  exact slice_of_toList hrest

/-! ## Patterns -/

section

variable {i j : Nat} {quote : Char} {done : List Char} {chars : List (Nat × Char)}

theorem scanQuoted_backslash :
    scanQuoted quote done ((i, '\\') :: (j, c) :: chars) =
      scanQuoted quote (done ++ if c = quote || c = '\\' then [c] else ['\\', c]) chars := by
  rw [scanQuoted.eq_def]
  dsimp only
  rw [if_pos rfl]
  split <;> rfl

theorem scanQuoted_cons (hc : c ≠ '\\') :
    scanQuoted quote done ((i, c) :: chars) =
      if c = quote then some (done, chars) else scanQuoted quote (done ++ [c]) chars := by
  rw [scanQuoted.eq_def]
  exact if_neg hc

end

/-- The scan of a pattern in quotes answers as the reader does: with nothing, or with the pattern
and what is left behind its body. -/
def ScansAs (quote : Char) (done : List Char) (offset : Nat) (text : List Char) :
    Option (List Char × List Char) → Prop
  | none => scanQuoted quote done (indexed offset text) = none
  | some (found, left) => ∃ body, text = body ++ left ∧
      scanQuoted quote done (indexed offset text) =
        some (done ++ found, indexed (offset + byteLength body) left)

/-- A piece that stands for some characters puts these in front of what is found behind it. -/
theorem ScansAs.append_left {quote : Char} {done shown : List Char}
    {read : Option (List Char × List Char)} {f : List Char × List Char → List Char × List Char}
    (piece : List Char)
    (hgoes : scanQuoted quote done (indexed offset (piece ++ rest)) =
      scanQuoted quote (done ++ shown) (indexed (offset + byteLength piece) rest))
    (hf : ∀ found left, f (found, left) = (shown ++ found, left))
    (h : ScansAs quote (done ++ shown) (offset + byteLength piece) rest read) :
    ScansAs quote done offset (piece ++ rest) (read.map f) := by
  cases read with
  | none => exact hgoes.trans h
  | some answer =>
    obtain ⟨found, left⟩ := answer
    obtain ⟨body, rfl, hscan⟩ := h
    rw [List.append_assoc, Nat.add_assoc, ← byteLength_append] at hscan
    rw [Option.map_some, hf]
    exact ⟨piece ++ body, (List.append_assoc ..).symm, hgoes.trans hscan⟩

/-- A pattern in quotes ends where it does for the reader, and is the same. -/
theorem scanQuoted_indexed (quote : Char) (done : List Char) (offset : Nat) (text : List Char) :
    ScansAs quote done offset text (quotedPattern? quote text) := by
  fun_induction quotedPattern? quote text generalizing done offset with
  | case1 => rfl
  | case2 => rfl
  | case3 c rest ih =>
    have hgoes : scanQuoted quote done (indexed offset (['\\', c] ++ rest)) =
        scanQuoted quote (done ++ if c = quote || c = '\\' then [c] else ['\\', c])
          (indexed (offset + byteLength ['\\', c]) rest) := by
      rw [byteLength_cons, ← Nat.add_assoc]
      exact scanQuoted_backslash
    refine ScansAs.append_left ['\\', c] hgoes (fun found left ↦ ?_) (ih _ _)
    -- The reader decides behind the rest whether the backslash stays, the scan in front of it.
    dsimp only
    split <;> rfl
  | case4 rest hlast hbackslash =>
    have hquote : quote ≠ '\\' := ne_backslash hlast hbackslash
    refine ⟨[quote], rfl, (scanQuoted_cons hquote).trans ?_⟩
    rw [if_pos rfl, List.append_nil]
    rfl
  | case5 c rest hlast hbackslash hquote ih =>
    have hc : c ≠ '\\' := ne_backslash hlast hbackslash
    have hgoes : scanQuoted quote done (indexed offset ([c] ++ rest)) =
        scanQuoted quote (done ++ [c]) (indexed (offset + byteLength [c]) rest) :=
      (scanQuoted_cons hc).trans (if_neg hquote)
    exact ScansAs.append_left [c] hgoes (fun _ _ ↦ rfl) (ih _ _)

section

variable {i depth : Nat} {chars : List (Nat × Char)}

theorem scanBare_ends (hc : c ≠ '\\')
    (h : isBlank c = true ∨ c = ')' ∧ depth = 0 ∨ c = '=' ∧ chars.head?.map Prod.snd = some '>') :
    scanBare depth ((i, c) :: chars) = some i := by
  have hopen : c ≠ '(' := by
    rintro rfl
    rcases h with h | ⟨h, -⟩ | ⟨h, -⟩ <;> exact absurd h (by decide)
  rw [scanBare.eq_def]
  dsimp only
  rw [if_neg hc, if_neg hopen]
  split
  · rename_i hclose
    subst hclose
    rcases h with h | ⟨-, rfl⟩ | ⟨h, -⟩
    · exact absurd h (by decide)
    · rfl
    · exact absurd h (by decide)
  · rename_i hclose
    split
    · rfl
    · rename_i harrow
      rw [Bool.and_eq_true, decide_eq_true_eq, decide_eq_true_eq] at harrow
      rcases h with h | ⟨h, -⟩ | h
      · exact if_pos h
      · exact absurd h hclose
      · exact absurd h harrow

theorem scanBare_goes (hc : c ≠ '\\') (hblank : isBlank c = false) (hclose : c = ')' → depth ≠ 0)
    (harrow : c = '=' → chars.head?.map Prod.snd ≠ some '>') :
    scanBare depth ((i, c) :: chars) =
      scanBare (if c = '(' then depth + 1 else if c = ')' then depth - 1 else depth) chars := by
  rw [scanBare.eq_def]
  dsimp only
  rw [if_neg hc]
  split
  · rfl
  · split
    · rename_i heq
      cases depth with
      | zero => exact absurd rfl (hclose heq)
      | succ depth => rfl
    · have hnone : ¬ (c = '=' && chars.head?.map Prod.snd = some '>') = true := by
        rw [Bool.and_eq_true, decide_eq_true_eq, decide_eq_true_eq]
        exact fun h ↦ harrow h.1 h.2
      rw [if_neg hnone, if_neg (ne_true_of_eq_false hblank)]

end

theorem head?_indexed (offset : Nat) (text : List Char) :
    (indexed offset text).head?.map Prod.snd = text.head? := by
  cases text <;> rfl

/-- A pattern without quotes ends where it does for the reader. -/
theorem scanBare_indexed (depth offset : Nat) (text : List Char) :
    scanBare depth (indexed offset text) =
      if (barePattern depth text).2.isEmpty then none
      else some (offset + byteLength (barePattern depth text).1) := by
  fun_induction barePattern depth text generalizing offset with
  | case1 => rfl
  | case2 => rfl
  | case3 depth c rest pattern left heq ih =>
    rw [heq] at ih
    have hskip : scanBare depth (indexed offset ('\\' :: c :: rest)) =
        scanBare depth (indexed (offset + 1 + c.utf8Size) rest) := by
      rw [scanBare.eq_def]
      rfl
    have hbackslash : '\\'.utf8Size = 1 := rfl
    rw [hskip, ih, byteLength_cons, byteLength_cons, hbackslash, Nat.add_assoc, Nat.add_assoc]
  | case4 depth rest => exact scanBare_ends (by decide) (.inr (.inr ⟨rfl, rfl⟩))
  | case5 depth c rest hlast hbackslash harrow hends =>
    rw [Bool.or_eq_true, Bool.and_eq_true, decide_eq_true_eq, decide_eq_true_eq] at hends
    refine scanBare_ends ?_ (hends.imp id .inl)
    rintro rfl
    rcases hends with h | ⟨h, -⟩ <;> exact absurd h (by decide)
  | case6 depth c rest hlast hbackslash harrow hgoes depth' pattern left heq ih =>
    rw [heq] at ih
    have hc : c ≠ '\\' := ne_backslash hlast hbackslash
    rw [Bool.or_eq_true, Bool.and_eq_true, decide_eq_true_eq, decide_eq_true_eq, not_or] at hgoes
    rw [indexed, scanBare_goes hc (eq_false_of_ne_true hgoes.1)
      (fun hc hdepth ↦ hgoes.2 ⟨hc, hdepth⟩) ?_]
    · rw [ih, byteLength_cons, Nat.add_assoc]
    · intro hc hhead
      rw [head?_indexed] at hhead
      obtain ⟨more, rfl⟩ := List.head?_eq_some_iff.1 hhead
      exact harrow more hc rfl

/-- Where a pattern ends, if so much of the text is left behind it. -/
theorem offsetIn_eq {piece left : List Char} (h : text.toList = front ++ (piece ++ left))
    {offset : Option Nat}
    (hoffset : offset = if left.isEmpty then none else some (byteLength piece)) :
    offsetIn text (byteLength front) offset = byteLength front + byteLength piece := by
  have hsize := byteLength_front h
  rw [byteLength_append] at hsize
  subst hoffset
  cases left with
  | nil => exact hsize
  | cons d left => rfl

theorem head?_fst_indexed (offset : Nat) (text : List Char) :
    (indexed offset text).head?.map Prod.fst = if text.isEmpty then none else some offset := by
  cases text <;> rfl

/-- A pattern is cut out of the text whose place and end the reader finds. -/
theorem scanPattern_eq (h : text.toList = front ++ rest) :
    scanPattern text (byteLength front) =
      ((pattern (byteLength front) rest).map fun (found, left) ↦
        (String.ofList found, byteLength front + (byteLength rest - byteLength left))).mapError
        .refused := by
  rw [scanPattern, slice_rest h, ok_bind, String.toList_ofList]
  cases rest with
  | nil => rfl
  | cons c more =>
    dsimp only [indexed]
    rw [pattern]
    split
    · rename_i hquote
      have hscan := scanQuoted_indexed c [] (0 + c.utf8Size) more
      cases hread : quotedPattern? c more with
      | none =>
        rw [hread] at hscan
        rw [hscan]
        rfl
      | some read =>
        obtain ⟨found, left⟩ := read
        rw [hread] at hscan
        obtain ⟨body, rfl, hscan⟩ := hscan
        have hoffset := head?_fst_indexed (0 + c.utf8Size + byteLength body) left
        rw [Nat.zero_add, ← byteLength_cons] at hoffset
        rw [← List.cons_append] at h
        have hstop := offsetIn_eq h hoffset
        rw [← List.cons_append, byteLength_append, hscan]
        dsimp only
        rw [Nat.zero_add, ← byteLength_cons, hstop, List.nil_append]
        show _ = Except.ok (String.ofList found, _)
        rw [Nat.add_sub_cancel]
    · have hscan := scanBare_indexed 0 0 (c :: more)
      have happend := barePattern_append 0 (c :: more)
      generalize barePattern 0 (c :: more) = read at hscan happend ⊢
      obtain ⟨found, left⟩ := read
      dsimp only at hscan happend ⊢
      rw [← happend] at h
      rw [Nat.zero_add] at hscan
      have hstop := offsetIn_eq h hscan
      rw [indexed] at hstop
      rw [hstop, ← happend, byteLength_append]
      cases found with
      | nil => exact if_pos rfl
      | cons d found =>
        have hpos : byteLength front + byteLength (d :: found) ≠ byteLength front := by
          have hone := d.utf8Size_pos
          rw [byteLength_cons]
          omega
        rw [if_neg hpos, slice_of_toList h]
        show _ = Except.ok (String.ofList (d :: found), _)
        rw [Nat.add_sub_cancel]
        rfl

/-! ## Tokens -/

theorem head?_utf8 {d : Char} (hd : d.utf8Size = 1) (text : List Char) :
    (utf8 text).head?.map Char.ofUInt8 = some d ↔ text.head? = some d := by
  cases text with
  | nil => exact Iff.rfl
  | cons c text =>
    obtain ⟨b, more, hutf8, ⟨rfl, -⟩ | ⟨hb, hc⟩⟩ := utf8_cons c text
    · rw [hutf8]
      exact Iff.rfl
    · rw [hutf8]
      constructor
      · intro h
        cases h
        exact absurd hd hb
      · intro h
        cases h
        exact absurd hd hc

theorem not_isNameStart_of_ne_one (h : c.utf8Size ≠ 1) : ¬ isNameStart c = true :=
  fun hstart ↦ h (utf8Size_of_isNameChar (isNameChar_of_isNameStart hstart))

/-- No token begins with a character of several bytes. -/
theorem lexeme_of_ne_one (h : c.utf8Size ≠ 1) :
    lexeme position c rest = .error ⟨position, .unexpectedCharacter c⟩ := by
  have hne (d : Char) (hd : d.utf8Size = 1) : c ≠ d := fun heq ↦ h (heq ▸ hd)
  have harrow : ¬ (c = '=' && rest.head? = some '>') = true := by simp [hne '=' rfl]
  rw [lexeme, if_neg (hne _ rfl), if_neg (hne _ rfl), if_neg (hne _ rfl), if_neg harrow,
    if_neg (hne _ rfl), if_neg (not_isNameStart_of_ne_one h)]

theorem scanToken_of_ne_one {b : UInt8} (hb : (Char.ofUInt8 b).utf8Size ≠ 1)
    (h : text.toList = front ++ c :: rest) :
    scanToken text (byteLength front) b =
      .error (.refused ⟨byteLength front, .unexpectedCharacter c⟩) := by
  have hne (d : Char) (hd : d.utf8Size = 1) : Char.ofUInt8 b ≠ d := fun heq ↦ hb (heq ▸ hd)
  rw [scanToken]
  dsimp only
  have harrow : ¬ (Char.ofUInt8 b = '=' &&
      (Bytes.ofString text)[byteLength front + 1]?.map Char.ofUInt8 = some '>') = true := by
    simp [hne '=' rfl]
  rw [if_neg (hne _ rfl), if_neg (hne _ rfl), if_neg (hne _ rfl), if_neg harrow,
    if_neg (hne _ rfl), if_neg (not_isNameStart_of_ne_one hb), slice_rest h, ok_bind,
    String.toList_ofList]
  rfl

/-- Behind a character of one byte. -/
theorem behind_one (h : text.toList = front ++ c :: rest) (hc : c.utf8Size = 1) :
    text.toList = (front ++ [c]) ++ rest ∧ byteLength (front ++ [c]) = byteLength front + 1 := by
  refine ⟨by rw [h, List.append_assoc, List.singleton_append], ?_⟩
  rw [byteLength_append, byteLength_cons, hc, byteLength_nil]

/-- A filter is found behind its tilde. -/
theorem scanFilter_eq (h : text.toList = front ++ '~' :: rest) :
    (scanPattern text (skip isAsciiBlank (Bytes.ofString text) (byteLength front + 1))).map
        (fun (pattern, stop) ↦ ([Token.mk .tilde (byteLength front), ⟨.pattern pattern,
          skip isAsciiBlank (Bytes.ofString text) (byteLength front + 1)⟩], stop)) =
      ((lexeme (byteLength front) '~' rest).map fun (found, next, _) ↦ (found, next)).mapError
        .refused := by
  obtain ⟨hbehind, hlength⟩ := behind_one h rfl
  have hbody : text.toList =
      (front ++ ['~'] ++ rest.takeWhile isAsciiBlank) ++ rest.dropWhile isAsciiBlank := by
    rw [List.append_assoc, List.takeWhile_append_dropWhile, hbehind]
  have harrow : ¬ ('~' = '=' && rest.head? = some '>') = true := Bool.false_ne_true
  rw [lexeme, if_neg (by decide), if_neg (by decide), if_neg (by decide), if_neg harrow, if_pos rfl]
  dsimp only
  rw [pattern_start, ← hlength, skip_eq (fun _ ↦ utf8Size_of_isAsciiBlank) hbehind,
    ← byteLength_append, scanPattern_eq hbody]
  cases pattern _ (rest.dropWhile isAsciiBlank) with
  | error refusal => rfl
  | ok found => rfl

/-- A name goes on as long as for the reader. -/
theorem scanName_eq (h : text.toList = front ++ c :: rest) (hstart : isNameStart c = true) :
    (slice text (byteLength front) (skip isNameChar (Bytes.ofString text) (byteLength front))).map
        (fun name ↦ ([Token.mk (.name name) (byteLength front)],
          skip isNameChar (Bytes.ofString text) (byteLength front))) =
      ((lexeme (byteLength front) c rest).map fun (found, next, _) ↦ (found, next)).mapError
        .refused := by
  have hname : (c :: rest).takeWhile isNameChar = c :: rest.takeWhile isNameChar :=
    List.takeWhile_cons_of_pos (isNameChar_of_isNameStart hstart)
  have hpiece : text.toList =
      front ++ ((c :: rest.takeWhile isNameChar) ++ rest.dropWhile isNameChar) := by
    rw [List.cons_append, List.takeWhile_append_dropWhile, h]
  have hlength := byteLength_takeWhile (fun _ ↦ utf8Size_of_isNameChar) (c :: rest)
  rw [hname] at hlength
  rw [skip_eq (fun _ ↦ utf8Size_of_isNameChar) h, hname, slice_of_toList hpiece,
    lexeme_of_isNameStart hstart, hlength]
  rfl

/-- Tokens are found where the reader finds them. -/
theorem scanToken_eq {b : UInt8} (h : text.toList = front ++ c :: rest)
    (hb : (Bytes.ofString text)[byteLength front]? = some b) :
    scanToken text (byteLength front) b =
      ((lexeme (byteLength front) c rest).map fun (found, next, _) ↦ (found, next)).mapError
        .refused := by
  rw [getElem?_ofString h] at hb
  obtain ⟨b', more, hutf8, hfirst | ⟨hb', hc⟩⟩ := utf8_cons c rest
  · obtain ⟨rfl, -⟩ := hfirst
    rw [hutf8] at hb
    cases hb
    have harrow : (Char.ofUInt8 b = '=' &&
        (Bytes.ofString text)[byteLength front + 1]?.map Char.ofUInt8 = some '>') =
        (Char.ofUInt8 b = '=' && rest.head? = some '>') := by
      by_cases hc : Char.ofUInt8 b = '='
      · obtain ⟨hbehind, hlength⟩ := behind_one h (hc ▸ rfl)
        rw [← hlength, getElem?_ofString hbehind, decide_eq_decide.2 (head?_utf8 rfl rest)]
      · simp [hc]
    rw [scanToken]
    dsimp only
    rw [harrow]
    by_cases hopen : Char.ofUInt8 b = '('
    · rw [lexeme, if_pos hopen, if_pos hopen]
      rfl
    by_cases hclose : Char.ofUInt8 b = ')'
    · rw [lexeme, if_neg hopen, if_neg hopen, if_pos hclose, if_pos hclose]
      rfl
    by_cases hcomma : Char.ofUInt8 b = ','
    · rw [lexeme, if_neg hopen, if_neg hopen, if_neg hclose, if_neg hclose, if_pos hcomma,
        if_pos hcomma]
      rfl
    by_cases harrow' : (Char.ofUInt8 b = '=' && rest.head? = some '>') = true
    · rw [lexeme, if_neg hopen, if_neg hopen, if_neg hclose, if_neg hclose, if_neg hcomma,
        if_neg hcomma, if_pos harrow', if_pos harrow']
      rfl
    rw [if_neg hopen, if_neg hclose, if_neg hcomma, if_neg harrow']
    by_cases htilde : Char.ofUInt8 b = '~'
    · rw [if_pos htilde]
      rw [htilde] at h ⊢
      exact scanFilter_eq h
    by_cases hstart : isNameStart (Char.ofUInt8 b) = true
    · rw [if_neg htilde, if_pos hstart]
      exact scanName_eq h hstart
    rw [lexeme, if_neg hopen, if_neg hclose, if_neg hcomma, if_neg harrow', if_neg htilde,
      if_neg htilde, if_neg hstart, if_neg hstart, slice_rest h, ok_bind, String.toList_ofList]
    rfl
  · rw [hutf8] at hb
    cases hb
    rw [scanToken_of_ne_one hb' h, lexeme_of_ne_one hc]
    rfl

/-! ## Texts -/

theorem scanFrom_of_none
    (h : (Bytes.ofString text)[skip isAsciiBlank (Bytes.ofString text) position]? = none) :
    scanFrom text position = .ok [⟨.stop, skip isAsciiBlank (Bytes.ofString text) position⟩] := by
  rw [scanFrom.eq_def]
  dsimp only
  split
  · rfl
  · rename_i hb
    rw [h] at hb
    cases hb

theorem scanFrom_of_some {b : UInt8}
    (h : (Bytes.ofString text)[skip isAsciiBlank (Bytes.ofString text) position]? = some b) :
    scanFrom text position =
      scanToken text (skip isAsciiBlank (Bytes.ofString text) position) b >>= fun (found, next) ↦
        (scanFrom text next).map (found ++ ·) := by
  rw [scanFrom.eq_def]
  dsimp only
  split
  · rename_i hb
    rw [h] at hb
    cases hb
  · rename_i b' hb
    rw [h] at hb
    cases hb
    split
    · rename_i halt hhalt
      rw [hhalt]
      rfl
    · rename_i found next hfound
      rw [hfound]
      rfl

/-- What is found does not depend on the blanks in front of it. -/
theorem scanFrom_congr {position' : Nat} (h : skip isAsciiBlank (Bytes.ofString text) position =
      skip isAsciiBlank (Bytes.ofString text) position') :
    scanFrom text position = scanFrom text position' := by
  rw [scanFrom.eq_def, scanFrom.eq_def text position', h]

/-- A character that is no blank begins a token. -/
theorem scanFrom_of_not_blank (h : text.toList = front ++ c :: rest)
    (hblank : isAsciiBlank c = false) :
    scanFrom text (byteLength front) =
      ((lexeme (byteLength front) c rest).map fun (found, next, _) ↦ (found, next)).mapError
        .refused >>= fun (found, next) ↦ (scanFrom text next).map (found ++ ·) := by
  have hskip : skip isAsciiBlank (Bytes.ofString text) (byteLength front) = byteLength front := by
    rw [skip_eq (fun _ ↦ utf8Size_of_isAsciiBlank) h,
      List.takeWhile_cons_of_neg (ne_true_of_eq_false hblank)]
    rfl
  obtain ⟨b, more, hutf8, -⟩ := utf8_cons c rest
  have hb : (Bytes.ofString text)[byteLength front]? = some b := by
    rw [getElem?_ofString h, hutf8]
    rfl
  rw [scanFrom_of_some (hskip.symm ▸ hb), hskip, scanToken_eq h hb]

theorem scanFrom_eq (h : text.toList = front ++ rest) :
    scanFrom text (byteLength front) =
      ((tokensFrom (byteLength front) rest).map (· ++ [⟨.stop, text.utf8ByteSize⟩])).mapError
        .refused := by
  generalize hposition : byteLength front = position
  fun_induction tokensFrom position rest generalizing front with
  | case1 position =>
    subst hposition
    have hskip := skip_eq (fun _ ↦ utf8Size_of_isAsciiBlank) h
    have hnone : (Bytes.ofString text)[byteLength front]? = none := getElem?_ofString h
    rw [scanFrom_of_none (hskip.symm ▸ hnone), hskip, byteLength_front h]
    rfl
  | case2 position c rest hblank ih =>
    have hc := utf8Size_of_isAsciiBlank hblank
    obtain ⟨hbehind, hlength⟩ := behind_one h hc
    rw [hposition] at hlength
    rw [← ih hbehind hlength]
    refine scanFrom_congr ?_
    rw [← hlength, ← hposition, skip_eq (fun _ ↦ utf8Size_of_isAsciiBlank) h,
      skip_eq (fun _ ↦ utf8Size_of_isAsciiBlank) hbehind, List.takeWhile_cons_of_pos hblank,
      byteLength_cons, byteLength_append, byteLength_cons, byteLength_nil, Nat.add_zero,
      Nat.add_assoc]
  | case3 position c rest hblank refusal hlexeme =>
    subst hposition
    rw [scanFrom_of_not_blank h (eq_false_of_ne_true hblank), hlexeme]
    rfl
  | case4 position c rest hblank found next left hlexeme hle ih =>
    subst hposition
    rw [scanFrom_of_not_blank h (eq_false_of_ne_true hblank), hlexeme]
    obtain ⟨piece, spans, hpiece, hnext, -, -⟩ := covers_of_lexeme hlexeme
    have hleft : text.toList = (front ++ piece) ++ left := by rw [h, hpiece, List.append_assoc]
    have hscan := ih hleft ((byteLength_append front piece).trans hnext.symm)
    show (scanFrom text next).map (found ++ ·) = _
    rw [hscan]
    cases tokensFrom next left with
    | error refusal => rfl
    | ok ts => exact congrArg Except.ok (List.append_assoc found ts _).symm

/-- A scan by byte offsets finds the tokens of the text, or refuses it as the reader does.  So it
never halts because of a cut. -/
theorem scan_eq (text : String) : scan text = (tokens text).mapError .refused := by
  have htext : text.toList = [] ++ text.toList := rfl
  rw [scan, tokens, byteLength_toList]
  exact scanFrom_eq htext

end Rollup.Spec
