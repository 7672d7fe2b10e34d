import Rollup.Number.Standard
import Rollup.Proofs.Number.Digits

/-!
# How integers are spelled

`Numeric.Spells field v` says that a field spells an integer: digits with at most one sign in
front.  Any number of zeros may stand in front of the other digits, and the integer may be of
any size.

| Reader | Reads as `v` the fields | Lemma |
|---|---|---|
| `Reading.integer?` | that spell `v` | `Reading.integer?_eq_some_iff` |
| `Numeric.ofText?` | that spell `v`, if it is one of 64 bits | `Numeric.ofText?_eq_some_iff` |
| `Numeric.integerBy?` | the same, whatever the quick reader gives up on | `Numeric.integerBy?_eq` |

So a field is read as an integer exactly if it spells one of 64 bits, whichever readers are used
(`Numeric.make_eq_ok_int_iff`), and every other field is left to the reader of doubles.  An
integer is printed as one of its spellings (`Numeric.spells_bytes`), and is read back from it.
-/

namespace Rollup

/-! ## Text -/

namespace Utf8

theorem piece_of_ascii {b : UInt8} (h : b ≤ 0x7F) (rest : Bytes) :
    piece b rest = .char (Char.ofNat b.toNat) 1 := if_pos h

theorem isText_of_ascii {bytes : Bytes} (h : ∀ b ∈ bytes, b ≤ 0x7F) : isText bytes = true := by
  induction bytes with
  | nil => rfl
  | cons b rest ih =>
    rw [List.forall_mem_cons] at h
    rw [isText, isTextBehind, piece_of_ascii h.1]
    exact ih h.2

end Utf8

/-! ## Digits -/

namespace Numeric

/-- The byte of an ASCII character. -/
def byte (c : Char) : UInt8 := c.toNat.toUInt8

/-- The field is the digits of an integer, behind its sign or without one. -/
inductive Spells : Bytes → Int → Prop
  | plain {digits : List Char} (h : Digits digits) : Spells (digits.map byte) (Digits.value digits)
  | plus {digits : List Char} (h : Digits digits) :
    Spells (0x2B :: digits.map byte) (Digits.value digits)
  | minus {digits : List Char} (h : Digits digits) :
    Spells (0x2D :: digits.map byte) (-(Digits.value digits : Int))

theorem toNat_byte {c : Char} (h : c.isDigit = true) : (byte c).toNat = c.toNat := by
  obtain ⟨-, hle⟩ := Digits.toNat_of_isDigit h
  rw [byte, Nat.toUInt8, UInt8.toNat_ofNat']
  omega

end Numeric

namespace Reading

open Numeric

theorem isDigit_iff {b : UInt8} : isDigit b = true ↔ 48 ≤ b.toNat ∧ b.toNat ≤ 57 := by
  simp only [isDigit, Bool.and_eq_true, decide_eq_true_eq, UInt8.le_iff_toNat_le]
  exact Iff.rfl

theorem isDigit_byte {c : Char} (h : c.isDigit = true) : isDigit (byte c) = true := by
  rw [isDigit_iff, toNat_byte h]
  exact Digits.toNat_of_isDigit h

/-- The digit that a byte is. -/
theorem byte_digitChar {b : UInt8} (h : isDigit b = true) :
    (b.toNat - 48).digitChar.isDigit = true ∧ byte (b.toNat - 48).digitChar = b := by
  obtain ⟨hge, hle⟩ := isDigit_iff.1 h
  have hdigit : (b.toNat - 48).digitChar.isDigit = true := by
    rw [Nat.isDigit_digitChar, decide_eq_true_eq]
    omega
  refine ⟨hdigit, UInt8.toNat_inj.1 ?_⟩
  rw [toNat_byte hdigit, Nat.toNat_digitChar_of_lt_ten (by omega)]
  omega

/-- Bytes that are all digits are the bytes of digits. -/
theorem exists_digits {bytes : Bytes} (hne : bytes ≠ []) (h : ∀ b ∈ bytes, isDigit b = true) :
    ∃ digits, Digits digits ∧ digits.map byte = bytes := by
  refine ⟨bytes.map fun b ↦ (b.toNat - 48).digitChar, ⟨?_, ?_⟩, ?_⟩
  · rwa [Ne, List.map_eq_nil_iff]
  · intro c hc
    obtain ⟨b, hb, rfl⟩ := List.mem_map.1 hc
    exact (byte_digitChar (h b hb)).1
  · rw [List.map_map]
    exact (List.map_congr_left fun b hb ↦ (byte_digitChar (h b hb)).2).trans bytes.map_id

theorem all_isDigit {digits : List Char} (h : Digits digits) :
    (digits.map byte).all isDigit = true := by
  rw [List.all_eq_true, List.forall_mem_map]
  exact fun c hc ↦ isDigit_byte (h.digit c hc)

theorem digitsFrom_map_byte {digits : List Char} (h : ∀ c ∈ digits, c.isDigit = true) (n : Nat) :
    digitsFrom n (digits.map byte) = Nat.ofDigitChars 10 digits n := by
  induction digits generalizing n with
  | nil => rfl
  | cons c digits ih =>
    rw [List.forall_mem_cons] at h
    have hnext : n * 10 + ((byte c).toNat - 0x30) = 10 * n + (c.toNat - '0'.toNat) := by
      rw [toNat_byte h.1, Nat.mul_comm]
      rfl
    rw [Nat.ofDigitChars_cons, ← ih h.2, ← hnext]
    rfl

/-! ## Integers of any size -/

theorem signed_minus (rest : Bytes) : signed (0x2D :: rest) = (true, rest) := rfl

theorem signed_plus (rest : Bytes) : signed (0x2B :: rest) = (false, rest) := rfl

theorem signed_of_isDigit {b : UInt8} (h : isDigit b = true) (rest : Bytes) :
    signed (b :: rest) = (false, b :: rest) := by
  have hne : ∀ sign : UInt8, isDigit sign = false → b ≠ sign := by
    rintro sign hsign rfl
    rw [h] at hsign
    cases hsign
  rw [signed, if_neg (hne 0x2D rfl), if_neg (hne 0x2B rfl)]

theorem signed_digits {digits : List Char} (h : Digits digits) :
    signed (digits.map byte) = (false, digits.map byte) := by
  obtain ⟨c, rest, rfl⟩ := List.exists_cons_of_ne_nil h.ne_nil
  exact signed_of_isDigit (isDigit_byte (h.digit c List.mem_cons_self)) _

/-- A sign is taken off, or nothing is. -/
theorem signed_cases (field : Bytes) :
    (∃ rest, field = 0x2D :: rest) ∨ (∃ rest, field = 0x2B :: rest) ∨
      signed field = (false, field) := by
  cases field with
  | nil => exact .inr (.inr rfl)
  | cons b rest =>
    by_cases hminus : b = 0x2D
    · exact .inl ⟨rest, hminus ▸ rfl⟩
    · by_cases hplus : b = 0x2B
      · exact .inr (.inl ⟨rest, hplus ▸ rfl⟩)
      · exact .inr (.inr (by rw [signed, if_neg hminus, if_neg hplus]))

/-- Once the sign is off, digits are left and nothing else. -/
theorem integer?_iff_of_signed {field rest : Bytes} {negative : Bool} {v : Int}
    (hsigned : signed field = (negative, rest)) :
    integer? field = some v ↔ ∃ digits, Digits digits ∧ digits.map byte = rest ∧
      v = if negative then -(Digits.value digits : Int) else Digits.value digits := by
  rw [integer?, hsigned]
  constructor
  · intro h
    dsimp only at h
    split at h
    · cases h
    · rename_i hdigits
      simp only [Bool.or_eq_true, List.isEmpty_iff, Bool.not_eq_true', not_or, Bool.not_eq_false,
        List.all_eq_true] at hdigits
      obtain ⟨digits, hd, rfl⟩ := exists_digits hdigits.1 hdigits.2
      rw [digitsFrom_map_byte hd.digit] at h
      exact ⟨digits, hd, rfl, (Option.some.inj h).symm⟩
  · rintro ⟨digits, hd, rfl, rfl⟩
    have hne : (digits.map byte).isEmpty = false := by
      rw [List.isEmpty_eq_false_iff, Ne, List.map_eq_nil_iff]
      exact hd.ne_nil
    simp only [hne, all_isDigit hd, digitsFrom_map_byte hd.digit, Bool.not_true, Bool.or_self,
      Bool.false_eq_true, if_false]
    rfl

theorem integer?_eq_some_iff {field : Bytes} {v : Int} :
    integer? field = some v ↔ Spells field v := by
  constructor
  · intro h
    obtain ⟨rest, rfl⟩ | ⟨rest, rfl⟩ | hsigned := signed_cases field
    · obtain ⟨digits, hd, rfl, rfl⟩ := (integer?_iff_of_signed (signed_minus rest)).1 h
      exact .minus hd
    · obtain ⟨digits, hd, rfl, rfl⟩ := (integer?_iff_of_signed (signed_plus rest)).1 h
      exact .plus hd
    · obtain ⟨digits, hd, hfield, rfl⟩ := (integer?_iff_of_signed hsigned).1 h
      exact hfield ▸ .plain hd
  · rintro (hd | hd | hd)
    · exact (integer?_iff_of_signed (signed_digits hd)).2 ⟨_, hd, rfl, rfl⟩
    · exact (integer?_iff_of_signed (signed_plus _)).2 ⟨_, hd, rfl, rfl⟩
    · exact (integer?_iff_of_signed (signed_minus _)).2 ⟨_, hd, rfl, rfl⟩

end Reading

/-! ## Integers of 64 bits -/

namespace Numeric

theorem Spells.isText {field : Bytes} {v : Int} (h : Spells field v) :
    Utf8.isText field = true := by
  have hdigits : ∀ {digits : List Char}, Digits digits → ∀ b ∈ digits.map byte, b ≤ 0x7F := by
    intro digits hd b hb
    obtain ⟨c, hc, rfl⟩ := List.mem_map.1 hb
    obtain ⟨-, hle⟩ := Digits.toNat_of_isDigit (hd.digit c hc)
    rw [UInt8.le_iff_toNat_le, toNat_byte (hd.digit c hc)]
    exact Nat.le_trans hle (by decide)
  apply Utf8.isText_of_ascii
  cases h with
  | plain hd => exact hdigits hd
  | plus hd => exact List.forall_mem_cons.2 ⟨by decide, hdigits hd⟩
  | minus hd => exact List.forall_mem_cons.2 ⟨by decide, hdigits hd⟩

theorem ofText?_eq_some_iff {field : Bytes} {v : Int} :
    ofText? field = some v ↔ Spells field v ∧ fits v = true := by
  rw [ofText?, Option.filter_eq_some_iff, Reading.integer?_eq_some_iff]

/-- The quick reader makes no difference, and no text is lost by asking for UTF-8. -/
theorem integerBy?_eq {quick : Bytes → Option Int} (hquick : Agrees quick) (field : Bytes) :
    integerBy? quick field = ofText? field := by
  rw [integerBy?]
  split
  · rename_i i hi
    exact (hquick field i hi).symm
  · split
    · rfl
    · rename_i htext
      symm
      rw [Option.eq_none_iff_forall_ne_some]
      intro v hv
      exact htext (ofText?_eq_some_iff.1 hv).1.isText

/-- An integer is printed as one of its spellings. -/
theorem spells_bytes (v : Int) : Spells (Numeric.int v).bytes v := by
  have hdigits := Digits.toDigits v.natAbs
  have hvalue := Digits.value_toDigits v.natAbs
  rw [bytes, chars, Writing.integer]
  split
  · rename_i hneg
    have hv : -(Digits.value (Nat.toDigits 10 v.natAbs) : Int) = v := by
      rw [hvalue]
      omega
    have hspells := Spells.minus hdigits
    rwa [hv] at hspells
  · rename_i hpos
    have hv : (Digits.value (Nat.toDigits 10 v.natAbs) : Int) = v := by
      rw [hvalue]
      omega
    have hspells := Spells.plain hdigits
    rwa [hv] at hspells

theorem makeBy_eq_ok_int_iff {quick : Bytes → Option Int} {double : Bytes → Option Binary64}
    {field : Bytes} {v : Int} :
    makeBy quick double field = .ok (.int v) ↔ integerBy? quick field = some v := by
  rw [makeBy]
  cases integerBy? quick field with
  | some i => rw [Except.ok.injEq, int.injEq, Option.some.injEq]
  | none => cases double field <;> exact ⟨nofun, nofun⟩

/-- The quick reader shows in no integer that is read. -/
theorem makeBy_eq_ok_int_iff_spells {quick : Bytes → Option Int} (hquick : Agrees quick)
    {double : Bytes → Option Binary64} {field : Bytes} {v : Int} :
    makeBy quick double field = .ok (.int v) ↔ Spells field v ∧ fits v = true := by
  rw [makeBy_eq_ok_int_iff, integerBy?_eq hquick, ofText?_eq_some_iff]

/-- Whichever readers are used, the same fields are read as integers. -/
theorem make_eq_ok_int_iff [NumberReader] {field : Bytes} {v : Int} :
    make field = .ok (.int v) ↔ Spells field v ∧ fits v = true :=
  makeBy_eq_ok_int_iff_spells NumberReader.agrees

/-- A field is read as an integer exactly if it spells one of 64 bits.  Every other field is read
as the double that it spells or is shown, as a text, in the error.  An integer that is printed is
read back as it was. -/
theorem makeBy_iff_spells {quick : Bytes → Option Int} (hquick : Agrees quick)
    (double : Bytes → Option Binary64) (field : Bytes) :
    (∀ v, makeBy quick double field = .ok (.int v) ↔ Spells field v ∧ fits v = true) ∧
      ((¬∃ v, Spells field v ∧ fits v = true) →
        makeBy quick double field = match double field with
          | some d => .ok (.float d)
          | none => .error (.notANumber field)) ∧
      (Error.notANumber field).message =
        "Failed to parse number: " ++ Quoted.text (Utf8.lossy field) ∧
      ∀ v, fits v = true → makeBy quick double (Numeric.int v).bytes = .ok (.int v) := by
  refine ⟨fun v ↦ makeBy_eq_ok_int_iff_spells hquick, ?_, rfl,
    fun v hv ↦ (makeBy_eq_ok_int_iff_spells hquick).2 ⟨spells_bytes v, hv⟩⟩
  intro hnone
  have hinteger : integerBy? quick field = none := by
    rw [integerBy?_eq hquick, Option.eq_none_iff_forall_ne_some]
    exact fun v hv ↦ hnone ⟨v, ofText?_eq_some_iff.1 hv⟩
  cases hdouble : double field with
  | some d => simp only [makeBy, hinteger, hdouble]
  | none => simp only [makeBy, hinteger, hdouble]

open Standard

/-- A padded integer behind a plus sign, the integer next to the largest one of 64 bits, and a
field that is no text. -/
theorem makeBy_iff_spells_limits : Agrees quick? ∧
    make (Bytes.ascii "+00000000000000000000000042") = .ok (.int 42) ∧
    make (Bytes.ascii "9223372036854775808") = .ok (.float (.ofInt 9223372036854775808)) ∧
    make [0x31, 0xFF] = .error (.notANumber [0x31, 0xFF]) := by
  have hnone : ∀ {field : Bytes}, ofText? field = none → ¬∃ v, Spells field v ∧ fits v = true := by
    rintro field hread ⟨v, hv⟩
    rw [ofText?_eq_some_iff.2 hv] at hread
    cases hread
  refine ⟨agrees_quick?, ?_, ?_, ?_⟩
  · exact ((makeBy_iff_spells agrees_quick? Reading.double? _).1 42).2
      (ofText?_eq_some_iff.1 (by decide))
  · exact ((makeBy_iff_spells agrees_quick? Reading.double? _).2.1 (hnone (by decide))).trans
      (by decide +kernel)
  · exact ((makeBy_iff_spells agrees_quick? Reading.double? _).2.1 (hnone (by decide))).trans
      (by decide)

end Numeric

end Rollup
