import Mathlib.Algebra.Group.Nat.Defs
import Mathlib.Data.List.Lex
import IccProfile.Proofs.Text.Stored

/-!
# The order of UTF-8 forms

A text reads back from its UTF-8 form (`ofUtf8?_utf8`). The form of a character is a first byte
and the lowest digits of the character's number in base 64. The first byte grows with the number,
and where it stays the digits decide, so texts stand in the order of the bytes of their forms
(`utf8_lt`).
-/

set_option autoImplicit false

namespace IccProfile.Text

theorem ofUtf8?_utf8 (s : String) : ofUtf8? (utf8 s) = some s := by
  have hbytes : (⟨(utf8 s).toArray⟩ : ByteArray) = s.toByteArray := by
    rw [← String.utf8Encode_toList, List.utf8Encode, utf8, ByteArray.ext_iff, List.data_toByteArray]
  rw [ofUtf8?, hbytes, String.fromUTF8?, dif_pos s.isValidUTF8]
  rfl

/-! ## The form of a character -/

variable {v w : Nat} {rest more : Bytes}

/-- The bytes of the lowest digits of a number, the highest of them first. -/
def continuation : Nat → Nat → Bytes
  | 0, _ => []
  | count + 1, v => UInt8.ofNat (v / 64 ^ count % 64 + 128) :: continuation count v

/-- How many bytes follow the first one. -/
def continued (v : Nat) : Nat :=
  if v ≤ 127 then 0 else if v ≤ 2047 then 1 else if v ≤ 65535 then 2 else 3

/-- The first byte. -/
def firstByte (v : Nat) : Nat :=
  if v ≤ 127 then v
  else if v ≤ 2047 then v / 64 % 32 + 192
  else if v ≤ 65535 then v / 4096 % 16 + 224
  else v / 262144 % 8 + 240

theorem utf8EncodeChar_eq (c : Char) :
    String.utf8EncodeChar c =
      UInt8.ofNat (firstByte c.toNat) :: continuation (continued c.toNat) c.toNat := by
  simp only [String.utf8EncodeChar, firstByte, continued, Char.toNat]
  split_ifs <;> simp [continuation]

/-- The first byte grows, or the number of bytes and all but the lowest digits stay. -/
theorem firstByte_cases (h : v < w) (hw : w < 0x110000) :
    firstByte v < firstByte w ∨
      firstByte v = firstByte w ∧ continued v = continued w ∧
        v / 64 ^ continued v = w / 64 ^ continued v := by
  unfold firstByte continued
  split_ifs <;> simp <;> omega

theorem firstByte_lt (hv : v < 0x110000) : firstByte v < 256 := by
  unfold firstByte
  split_ifs <;> omega

theorem cons_lt_cons_of_lt {m n : Nat} (h : m < n) (hn : n < 256) :
    UInt8.ofNat m :: rest < UInt8.ofNat n :: more := by
  apply List.cons_lt_cons_iff.mpr
  left
  rw [UInt8.lt_iff_toNat_lt, UInt8.toNat_ofNat', UInt8.toNat_ofNat']
  omega

/-- Numbers that differ in their lowest digits stand in the order of these. -/
theorem continuation_append_lt {count : Nat} (hhigh : v / 64 ^ count = w / 64 ^ count)
    (h : v < w) : continuation count v ++ rest < continuation count w ++ more := by
  induction count with
  | zero =>
      rw [Nat.pow_zero, Nat.div_one, Nat.div_one] at hhigh
      omega
  | succ count ih =>
      rw [Nat.pow_succ, ← Nat.div_div_eq_div_mul, ← Nat.div_div_eq_div_mul] at hhigh
      have hle : v / 64 ^ count ≤ w / 64 ^ count := Nat.div_le_div_right (Nat.le_of_lt h)
      rw [continuation, continuation, List.cons_append, List.cons_append]
      by_cases hdigit : v / 64 ^ count = w / 64 ^ count
      -- the digit is the same, so the lower ones differ
      · rw [hdigit]
        exact List.cons_lt_cons_iff.mpr (.inr ⟨rfl, ih hdigit⟩)
      · exact cons_lt_cons_of_lt (by omega) (by omega)

theorem utf8EncodeChar_append_lt {c d : Char} (h : c < d) :
    String.utf8EncodeChar c ++ rest < String.utf8EncodeChar d ++ more := by
  have hlt : c.toNat < d.toNat := h
  have hd : d.toNat < 0x110000 := by
    have hranges := char_ranges d
    omega
  rw [utf8EncodeChar_eq, utf8EncodeChar_eq, List.cons_append, List.cons_append]
  rcases firstByte_cases hlt hd with hfirst | ⟨hfirst, hcount, hhigh⟩
  · exact cons_lt_cons_of_lt hfirst (firstByte_lt hd)
  · rw [hfirst, ← hcount]
    exact List.cons_lt_cons_iff.mpr (.inr ⟨rfl, continuation_append_lt hhigh hlt⟩)

/-! ## The form of a text -/

/-- Texts stand in the order of the bytes of their forms. -/
theorem utf8_lt {s t : String} (h : s < t) : utf8 s < utf8 t := by
  have hchars : ∀ as bs : List Char, as < bs →
      as.flatMap String.utf8EncodeChar < bs.flatMap String.utf8EncodeChar := by
    intro as
    induction as with
    | nil =>
        intro bs hlt
        cases bs with
        | nil => exact absurd hlt (List.lt_irrefl _)
        | cons b bs =>
            rw [List.flatMap_cons, utf8EncodeChar_eq]
            exact List.nil_lt_cons _ _
    | cons a as ih =>
        intro bs hlt
        cases bs with
        | nil => exact absurd hlt (List.not_lt_nil _)
        | cons b bs =>
            rw [List.flatMap_cons, List.flatMap_cons]
            rcases List.cons_lt_cons_iff.mp hlt with hfirst | ⟨rfl, hrest⟩
            · exact utf8EncodeChar_append_lt hfirst
            · exact List.Lex.append_left _ (ih bs hrest) _
  exact hchars s.toList t.toList (String.lt_iff.mp h)

end IccProfile.Text
