import Mathlib.Algebra.Ring.Nat
import Mathlib.Tactic.SplitIfs
import Rollup.Codec.Varint

/-!
# Reading back lengths

A value may be spelled in several ways: `Form x form` says that the bytes `form` are one of them.
A reader takes every form for its value, whatever follows it (`Form.decode?_append`), and what
`Varint.encode` writes is a form (`form_encode`).  So a length that was written is read back
(`decode?_encode_append`), and takes one to five bytes.  A field that has its length in front can be
taken off the front of a byte string (`splitField?_append`); keys, blobs and arenas rest on that.
-/

namespace Rollup.Varint

variable {x : UInt32} {form : Bytes} {k m : Nat}

/-! ## Bytes, lowest first -/

theorem ofLittleEndian_cons (b : UInt8) (bytes : Bytes) :
    ofLittleEndian (b :: bytes) = b.toNat + 256 * ofLittleEndian bytes := rfl

theorem ofLittleEndian_littleEndian {count n : Nat} (h : n < 256 ^ count) :
    ofLittleEndian (littleEndian count n) = n := by
  induction count generalizing n with
  | zero => exact (Nat.lt_one_iff.1 h).symm
  | succ count ih =>
    have hn : n / 256 < 256 ^ count := Nat.div_lt_of_lt_mul (by rwa [← Nat.pow_succ'])
    rw [littleEndian, ofLittleEndian_cons, ih hn]
    have : n.toUInt8.toNat = n % 256 := by simp
    omega

/-- Different numbers that fit have different bytes. -/
theorem littleEndian_inj {count m n : Nat} (hm : m < 256 ^ count) (hn : n < 256 ^ count)
    (h : littleEndian count m = littleEndian count n) : m = n := by
  rw [← ofLittleEndian_littleEndian hm, h, ofLittleEndian_littleEndian hn]

/-! ## The first byte -/

theorem followers_toUInt8 (m : Nat) :
    followers m.toUInt8 = if m % 2 = 0 then 0 else if m % 4 = 1 then 1
      else if m % 8 = 3 then 2 else if m % 16 = 7 then 3 else 4 := by
  simp [followers, ← UInt8.toNat_inj]

theorem eq_or_of_lt_four (hk : k < 4) : k = 0 ∨ k = 1 ∨ k = 2 ∨ k = 3 := by omega

/-- The tag in the lowest bits of a number tells how many bytes follow the first one. -/
theorem followers_toUInt8_eq_iff (hk : k < 4) :
    followers m.toUInt8 = k ↔ m % 2 ^ (k + 1) = 2 ^ k - 1 := by
  rw [followers_toUInt8]
  obtain rfl | rfl | rfl | rfl := eq_or_of_lt_four hk <;> grind

/-! ## Forms -/

/-- The forms of one to four bytes.  The number `m` is the value with the tag
below it. -/
theorem decode?_short_form (hk : k < 4) (hm : m < 256 ^ (k + 1)) (htag : followers m.toUInt8 = k)
    (t : Bytes) :
    decode? (littleEndian (k + 1) m ++ t) = some ((m / (1 <<< (k + 1))).toUInt32, k + 1) := by
  have hbehind : (littleEndian k (m / 256) ++ t).take k = littleEndian k (m / 256) :=
    List.take_left' (length_littleEndian k _)
  have hvalue : ofLittleEndian (m.toUInt8 :: littleEndian k (m / 256)) = m :=
    ofLittleEndian_littleEndian hm
  simp only [littleEndian, List.cons_append, decode?, htag, hbehind, length_littleEndian,
    Nat.lt_irrefl, if_false, if_neg (Nat.ne_of_lt hk), hvalue]

theorem decode?_long_form {lead : UInt8} (htag : followers lead = 4) {n : Nat} (hn : n < 256 ^ 4)
    (t : Bytes) : decode? (lead :: littleEndian 4 n ++ t) = some (n.toUInt32, 5) := by
  have hbehind : (littleEndian 4 n ++ t).take 4 = littleEndian 4 n :=
    List.take_left' (length_littleEndian 4 n)
  simp only [List.cons_append, decode?, htag, hbehind, length_littleEndian,
    Nat.lt_irrefl, if_false, if_true, ofLittleEndian_littleEndian hn]

/-- The bytes are a form of the value. -/
inductive Form (x : UInt32) : Bytes → Prop
  /-- One to four bytes: the value with a zero and `k` ones below it. -/
  | short {k : Nat} : k < 4 → x.toNat < 2 ^ (7 * (k + 1)) →
      Form x (littleEndian (k + 1) (2 ^ (k + 1) * x.toNat + (2 ^ k - 1)))
  /-- Five bytes: only the tag of the first one is looked at. -/
  | long {lead : UInt8} : followers lead = 4 → Form x (lead :: littleEndian 4 x.toNat)

theorem tag_lt (k : Nat) : 2 ^ k - 1 < 2 ^ (k + 1) := by
  have := Nat.pow_lt_pow_succ (a := 2) (n := k) (by decide)
  omega

/-- The value of a form is read, and what follows it does not matter. -/
theorem Form.decode?_append (h : Form x form) (t : Bytes) :
    decode? (form ++ t) = some (x, form.length) := by
  cases h with
  | @short k hk hx =>
    have hm : 2 ^ (k + 1) * x.toNat + (2 ^ k - 1) < 256 ^ (k + 1) := by
      obtain rfl | rfl | rfl | rfl := eq_or_of_lt_four hk <;> omega
    have htag : (2 ^ (k + 1) * x.toNat + (2 ^ k - 1)) % 2 ^ (k + 1) = 2 ^ k - 1 := by
      rw [Nat.mul_add_mod_self_left, Nat.mod_eq_of_lt (tag_lt k)]
    have hvalue : (2 ^ (k + 1) * x.toNat + (2 ^ k - 1)) / 2 ^ (k + 1) = x.toNat := by
      rw [Nat.mul_add_div (Nat.two_pow_pos _), Nat.div_eq_of_lt (tag_lt k), Nat.add_zero]
    rw [decode?_short_form hk hm ((followers_toUInt8_eq_iff hk).2 htag), Nat.one_shiftLeft, hvalue,
      length_littleEndian]
    simp
  | long htag =>
    rw [decode?_long_form htag x.toNat_lt]
    simp

/-! ## The round trip -/

theorem form_encode (x : UInt32) : Form x (encode x) := by
  unfold encode
  dsimp only
  split_ifs with h₁ h₂ h₃ h₄
  · simpa using Form.short (x := x) (k := 0) (by decide) (by omega)
  · simpa using Form.short (x := x) (k := 1) (by decide) (by omega)
  · simpa using Form.short (x := x) (k := 2) (by decide) (by omega)
  · simpa using Form.short (x := x) (k := 3) (by decide) (by omega)
  · exact .long rfl

theorem encode_length_pos (x : UInt32) : 0 < (encode x).length := by
  unfold encode
  dsimp only
  split_ifs <;> simp

theorem encode_length_le (x : UInt32) : (encode x).length ≤ 5 := by
  unfold encode
  dsimp only
  split_ifs <;> simp

/-- What was written is read back, and what follows it does not matter. -/
theorem decode?_encode_append (x : UInt32) (t : Bytes) :
    decode? (encode x ++ t) = some (x, (encode x).length) :=
  (form_encode x).decode?_append t

/-- A reader that sees the first five bytes sees enough. -/
theorem decode?_take_encode_append (x : UInt32) (t : Bytes) :
    decode? ((encode x ++ t).take 5) = some (x, (encode x).length) := by
  rw [List.take_append, List.take_of_length_le (encode_length_le x)]
  exact decode?_encode_append x _

/-! ## Fields with their length in front -/

theorem toNat_length {value : Bytes} (h : value.length < 1 <<< 32) :
    value.length.toUInt32.toNat = value.length :=
  UInt32.toNat_ofNat'.trans (Nat.mod_eq_of_lt h)

/-- A field comes off the front with its length, and the rest is left. -/
theorem splitField?_append {value : Bytes} (h : value.length < 1 <<< 32) (t : Bytes) :
    splitField? (encode value.length.toUInt32 ++ value ++ t) = some (value, t) := by
  rw [List.append_assoc, splitField?, decode?_encode_append]
  simp [toNat_length h]

end Rollup.Varint
