import Rollup.Proofs.Codec.Varint

/-!
# The shortest form of a length

What a reader takes off the front of some bytes is a form of the value that it gives
(`form_of_decode?`).  A value has at most one form of each number of bytes, but of five bytes, where
the upper bits of the first one are of no account (`Form.unique`).  `encode` writes the shortest
form (`Form.length_encode_le`); so what a reader took is what would be written exactly if it is no
longer than need be and, where it has five bytes, the first one is `0x0F` (`encode_eq_take_iff`).

Whether there is a value at all is seen from the first byte: as many bytes must follow it as it has
one bits at the bottom, and four if it has more (`isSome_decode?_iff`).
-/

namespace Rollup.Varint

variable {x y : UInt32} {form form' bytes : Bytes} {k taken : Nat}

/-! ## Bytes, lowest first -/

theorem ofLittleEndian_lt (bytes : Bytes) : ofLittleEndian bytes < 256 ^ bytes.length := by
  induction bytes with
  | nil => exact Nat.one_pos
  | cons b bytes ih =>
    have hb := b.toNat_lt
    rw [ofLittleEndian_cons, List.length_cons, Nat.pow_succ']
    omega

theorem littleEndian_ofLittleEndian (bytes : Bytes) :
    littleEndian bytes.length (ofLittleEndian bytes) = bytes := by
  induction bytes with
  | nil => rfl
  | cons b bytes ih =>
    have hb := b.toNat_lt
    have hlow : (b.toNat + 256 * ofLittleEndian bytes).toUInt8 = b := by
      rw [← UInt8.toNat_inj]
      simp
    have hhigh : (b.toNat + 256 * ofLittleEndian bytes) / 256 = ofLittleEndian bytes := by omega
    rw [ofLittleEndian_cons, List.length_cons, littleEndian, hlow, hhigh, ih]

/-! ## The first byte -/

/-- How many of the `count` lowest bits are ones, up to the first zero. -/
def lowOnes : (count n : Nat) → Nat
  | 0, _ => 0
  | count + 1, n => if n % 2 = 1 then lowOnes count (n / 2) + 1 else 0

/-- The number of one bits at the bottom of a byte. -/
def trailingOnes (b : UInt8) : Nat := lowOnes 8 b.toNat

theorem followers_eq (lead : UInt8) : followers lead = min (trailingOnes lead) 4 := by
  have hlead := followers_toUInt8 lead.toNat
  rw [Nat.toUInt8_eq, UInt8.ofNat_toNat] at hlead
  rw [hlead, trailingOnes]
  simp only [lowOnes]
  grind

/-! ## Reading -/

/-- There is a value at the front if its bytes are all there. -/
theorem isSome_decode?_iff :
    (decode? bytes).isSome ↔
      ∃ lead, bytes.head? = some lead ∧ min (trailingOnes lead) 4 + 1 ≤ bytes.length := by
  cases bytes with
  | nil => simp [decode?]
  | cons lead rest =>
    simp only [decode?, List.head?_cons, Option.some.injEq, exists_eq_left', List.length_cons,
      List.length_take, ← followers_eq, Nat.add_le_add_iff_right]
    split_ifs with hshort hlong
    · simp only [Option.isSome_none, Bool.false_eq_true, false_iff]
      omega
    all_goals
      simp only [Option.isSome_some, true_iff]
      omega

theorem toUInt8_ofLittleEndian (b : UInt8) (bytes : Bytes) :
    (ofLittleEndian (b :: bytes)).toUInt8 = b := by
  rw [ofLittleEndian_cons, ← UInt8.toNat_inj]
  simp

theorem followers_le (lead : UInt8) : followers lead ≤ 4 := by
  rw [followers_eq]
  exact Nat.min_le_right _ _

/-- Bytes with a tag for so many are the form of the number above the tag. -/
theorem form_of_tag {lead : UInt8} {behind : Bytes} (hk : behind.length < 4)
    (htag : followers lead = behind.length) :
    Form (ofLittleEndian (lead :: behind) / 2 ^ (behind.length + 1)).toUInt32 (lead :: behind) := by
  generalize hm : ofLittleEndian (lead :: behind) = m
  have hlt : m / 2 ^ (behind.length + 1) < 2 ^ (7 * (behind.length + 1)) := by
    have hall : m < 256 ^ (behind.length + 1) := hm ▸ ofLittleEndian_lt (lead :: behind)
    rw [Nat.div_lt_iff_lt_mul (Nat.two_pow_pos _), ← Nat.pow_add]
    calc m < 256 ^ (behind.length + 1) := hall
      _ = 2 ^ (8 * (behind.length + 1)) := by rw [Nat.pow_mul]
      _ = 2 ^ (7 * (behind.length + 1) + (behind.length + 1)) := by congr 1; omega
  have hmod : m % 2 ^ (behind.length + 1) = 2 ^ behind.length - 1 := by
    rw [← followers_toUInt8_eq_iff hk, ← hm, toUInt8_ofLittleEndian]
    exact htag
  have hvalue : (m / 2 ^ (behind.length + 1)).toUInt32.toNat = m / 2 ^ (behind.length + 1) := by
    have hfits : 2 ^ (7 * (behind.length + 1)) ≤ 2 ^ 28 :=
      Nat.pow_le_pow_right (by decide) (by omega)
    exact UInt32.toNat_ofNat_of_lt' (Nat.lt_of_lt_of_le (Nat.lt_of_lt_of_le hlt hfits) (by decide))
  have hform := Form.short (x := (m / 2 ^ (behind.length + 1)).toUInt32) hk (hvalue.symm ▸ hlt)
  have hbytes := littleEndian_ofLittleEndian (lead :: behind)
  rw [hm, List.length_cons] at hbytes
  rwa [hvalue, ← hmod, Nat.div_add_mod, hbytes] at hform

/-- Four bytes behind a tag that has no zero are the form of their number. -/
theorem form_of_long {lead : UInt8} {behind : Bytes} (hlength : behind.length = 4)
    (htag : followers lead = 4) :
    Form (ofLittleEndian behind).toUInt32 (lead :: behind) := by
  have hlt := ofLittleEndian_lt behind
  have hbytes := littleEndian_ofLittleEndian behind
  rw [hlength] at hlt hbytes
  have hvalue : (ofLittleEndian behind).toUInt32.toNat = ofLittleEndian behind :=
    UInt32.toNat_ofNat_of_lt' hlt
  have hform := Form.long (x := (ofLittleEndian behind).toUInt32) htag
  rwa [hvalue, hbytes] at hform

/-- A reader takes a form of the value that it gives. -/
theorem form_of_decode? (h : decode? bytes = some (x, taken)) :
    Form x (bytes.take taken) ∧ taken ≤ bytes.length := by
  cases bytes with
  | nil => cases h
  | cons lead rest =>
    have hle := followers_le lead
    simp only [decode?, Nat.one_shiftLeft] at h
    split_ifs at h with hshort hlong
    · obtain ⟨rfl, rfl⟩ := Prod.mk.inj (Option.some.inj h)
      have hbehind : (rest.take (followers lead)).length = 4 := by
        rw [List.length_take] at hshort ⊢
        omega
      refine ⟨?_, ?_⟩
      · rw [hlong] at hbehind ⊢
        exact form_of_long hbehind hlong
      · rw [List.length_take] at hbehind
        rw [List.length_cons]
        omega
    · obtain ⟨rfl, rfl⟩ := Prod.mk.inj (Option.some.inj h)
      have hbehind : (rest.take (followers lead)).length = followers lead := by
        rw [List.length_take] at hshort ⊢
        omega
      have hfew : (rest.take (followers lead)).length < 4 := by omega
      refine ⟨?_, ?_⟩
      · have hform := form_of_tag hfew hbehind.symm
        rwa [hbehind] at hform
      · rw [List.length_take] at hbehind
        rw [List.length_cons]
        omega

/-! ## Forms of one value -/

/-- The forms of a value have different lengths, or are of five bytes. -/
theorem Form.unique (h : Form x form) (h' : Form x form') (hlength : form.length = form'.length)
    (hlead : form.length = 5 → form.head? = form'.head?) : form = form' := by
  cases h with
  | @short k hk hx =>
    cases h' with
    | @short k' hk' hx' =>
      simp only [length_littleEndian, Nat.add_right_cancel_iff] at hlength
      rw [hlength]
    | long =>
      simp only [length_littleEndian, List.length_cons] at hlength
      omega
  | @long lead htag =>
    cases h' with
    | @short k' hk' hx' =>
      simp only [length_littleEndian, List.length_cons] at hlength
      omega
    | @long lead' htag' =>
      simp only [List.length_cons, length_littleEndian, List.head?_cons, Option.some.injEq,
        forall_const] at hlead
      rw [hlead]

theorem length_encode_le_iff (hk : k < 4) :
    (encode x).length ≤ k + 1 ↔ x.toNat < 2 ^ (7 * (k + 1)) := by
  unfold encode
  dsimp only
  obtain rfl | rfl | rfl | rfl := eq_or_of_lt_four hk <;> split_ifs <;>
    simp only [length_littleEndian, List.length_cons] <;> grind

/-- What is written is the shortest form. -/
theorem Form.length_encode_le (h : Form x form) : (encode x).length ≤ form.length := by
  cases h with
  | @short k hk hx =>
    rw [length_littleEndian]
    exact (length_encode_le_iff hk).2 hx
  | long =>
    rw [List.length_cons, length_littleEndian]
    exact encode_length_le x

theorem length_encode_mono (h : x ≤ y) : (encode x).length ≤ (encode y).length := by
  have hle := encode_length_le x
  have hpos := encode_length_pos y
  by_cases hlong : (encode y).length < 5
  · obtain ⟨k, hk⟩ := Nat.exists_eq_succ_of_ne_zero (Nat.ne_of_gt hpos)
    have hy := (length_encode_le_iff (x := y) (k := k) (by omega)).1 (Nat.le_of_eq hk)
    rw [hk]
    exact (length_encode_le_iff (by omega)).2 (Nat.lt_of_le_of_lt (UInt32.le_iff_toNat_le.1 h) hy)
  · omega

theorem head?_encode (h : (encode x).length = 5) : (encode x).head? = some 0x0F := by
  unfold encode at h ⊢
  dsimp only at h ⊢
  split_ifs at h ⊢ <;> simp at h ⊢

/-! ## Lists of values -/

/-- The values of some bytes, one after the other; none when the last one is not complete. -/
def decodeAll? (bytes : Bytes) : Option (List UInt32) :=
  match bytes with
  | [] => some []
  | b :: rest =>
    match h : decode? (b :: rest) with
    | none => none
    | some (x, taken) =>
      have := decode?_taken_pos h
      (decodeAll? ((b :: rest).drop taken)).map (x :: ·)
  termination_by bytes.length
  decreasing_by simp only [List.length_drop, List.length_cons]; omega

theorem decodeAll?_encode_append (x : UInt32) (t : Bytes) :
    decodeAll? (encode x ++ t) = (decodeAll? t).map (x :: ·) := by
  obtain ⟨b, rest, hbytes⟩ := List.exists_cons_of_length_pos (encode_length_pos x)
  have hread := decode?_encode_append x t
  rw [hbytes, List.cons_append] at hread ⊢
  rw [decodeAll?]
  split
  · rename_i hnone
    rw [hnone] at hread
    cases hread
  · rename_i x' taken hsome
    rw [hsome] at hread
    obtain ⟨rfl, rfl⟩ := Prod.mk.inj (Option.some.inj hread)
    dsimp only
    rw [← List.cons_append, List.drop_left]

theorem decodeAll?_flatMap_encode (xs : List UInt32) :
    decodeAll? (xs.flatMap encode) = some xs := by
  induction xs with
  | nil => simp [decodeAll?]
  | cons x xs ih => rw [List.flatMap_cons, decodeAll?_encode_append, ih, Option.map_some]

/-! ## What is written and what is read -/

/-- No form of the value has fewer bytes. -/
def Shortest (x : UInt32) (count : Nat) : Prop :=
  ∀ bytes taken, decode? bytes = some (x, taken) → count ≤ taken

theorem length_encode_le_of_decode? (h : decode? bytes = some (x, taken)) :
    (encode x).length ≤ taken := by
  obtain ⟨hform, hle⟩ := form_of_decode? h
  have hlength := hform.length_encode_le
  rwa [List.length_take, Nat.min_eq_left hle] at hlength

/-- A value that was read is written with the bytes that were taken exactly if no form of it is
shorter and, of five bytes, the first has no bits above its tag. -/
theorem encode_eq_take_iff (h : decode? bytes = some (x, taken)) :
    encode x = bytes.take taken ↔
      Shortest x taken ∧ (taken = 5 → bytes.head? = some 0x0F) := by
  obtain ⟨hform, hle⟩ := form_of_decode? h
  have hlength : (bytes.take taken).length = taken := by rw [List.length_take, Nat.min_eq_left hle]
  have hhead : (bytes.take taken).head? = bytes.head? := by
    rw [List.head?_take, if_neg (Nat.ne_of_gt (decode?_taken_pos h))]
  constructor
  · intro heq
    refine ⟨fun bytes' taken' h' ↦ ?_, fun hfive ↦ ?_⟩
    · rw [← hlength, ← heq]
      exact length_encode_le_of_decode? h'
    · rw [← hhead, ← heq]
      apply head?_encode
      rw [heq, hlength, hfive]
  · rintro ⟨hshortest, hlead⟩
    have hcount : taken = (encode x).length := by
      apply Nat.le_antisymm
      · have hread := decode?_encode_append x []
        exact hshortest _ _ hread
      · exact length_encode_le_of_decode? h
    apply (form_encode x).unique hform
    · rw [hlength, hcount]
    · intro hfive
      rw [hhead, hlead (hcount.trans hfive), head?_encode hfive]

theorem eq_of_encode_prefix (h : encode x <+: encode y) : x = y := by
  obtain ⟨t, ht⟩ := h
  have hx := decode?_encode_append x t
  have hy := decode?_encode_append y []
  rw [ht] at hx
  rw [List.append_nil, hx] at hy
  exact (Prod.mk.inj (Option.some.inj hy)).1

/-- What is written is read back, whatever follows it, and takes one to five bytes, for larger
values no fewer.  No encoding begins another one, and those of a list of values, one after the
other, are read as this list.

A reader gives a value exactly if behind the first byte there are as many bytes as it has one bits
at the bottom, or four if it has more.  The value is written with no more bytes than the reader
took, and with the same ones exactly if no form of it has fewer and, of five, the first is `0x0F`.
-/
theorem encode_shortest :
    (∀ x t, decode? (encode x ++ t) = some (x, (encode x).length)) ∧
    (∀ x, 1 ≤ (encode x).length ∧ (encode x).length ≤ 5) ∧
    (∀ x y, x ≤ y → (encode x).length ≤ (encode y).length) ∧
    (∀ x y, encode x <+: encode y → x = y) ∧
    (∀ xs : List UInt32, decodeAll? (xs.flatMap encode) = some xs) ∧
    (∀ bytes, (decode? bytes).isSome ↔
      ∃ lead, bytes.head? = some lead ∧ min (trailingOnes lead) 4 + 1 ≤ bytes.length) ∧
    (∀ bytes x taken, decode? bytes = some (x, taken) →
      (encode x).length ≤ taken ∧
        (encode x = bytes.take taken ↔
          Shortest x taken ∧ (taken = 5 → bytes.head? = some 0x0F))) :=
  ⟨decode?_encode_append, fun x ↦ ⟨encode_length_pos x, encode_length_le x⟩,
    fun _ _ ↦ length_encode_mono, fun _ _ ↦ eq_of_encode_prefix, decodeAll?_flatMap_encode,
    fun _ ↦ isSome_decode?_iff,
    fun _ _ _ h ↦ ⟨length_encode_le_of_decode? h, encode_eq_take_iff h⟩⟩

/-- A form of three bytes whose value would fit in one, and a form of five bytes with upper bits in
the first one, each with a byte behind it: neither is what is written.  What is written for one of
these values is no longer than for the other, and does not begin it. -/
theorem encode_shortest_longer :
    decode? [0x83, 0x02, 0x00, 0x07] = some (80, 3) ∧ (encode 80).length ≤ 3 ∧
      encode 80 ≠ [0x83, 0x02, 0x00] ∧
      decode? [0x1F, 0xEF, 0xBE, 0xAD, 0xDE, 0x07] = some (0xDEADBEEF, 5) ∧
      encode 0xDEADBEEF ≠ [0x1F, 0xEF, 0xBE, 0xAD, 0xDE] ∧
      (encode 80).length ≤ (encode 0xDEADBEEF).length ∧ ¬ encode 80 <+: encode 0xDEADBEEF := by
  obtain ⟨-, -, hmono, hbegins, -, -, hagain⟩ := encode_shortest
  have hthree : decode? [0x83, 0x02, 0x00, 0x07] = some (80, 3) := by decide
  have hfive : decode? [0x1F, 0xEF, 0xBE, 0xAD, 0xDE, 0x07] = some (0xDEADBEEF, 5) := by decide
  refine ⟨hthree, (hagain _ _ _ hthree).1, fun heq ↦ ?_, hfive, fun heq ↦ ?_,
    hmono _ _ (by decide), fun hprefix ↦ absurd (hbegins _ _ hprefix) (by decide)⟩
  · have hshortest := ((hagain _ _ _ hthree).2.1 heq).1
    exact absurd (hshortest [0xA0] 1 (by decide)) (by decide)
  · have hlead := ((hagain _ _ _ hfive).2.1 heq).2
    exact absurd (hlead rfl) (by decide)

end Rollup.Varint
