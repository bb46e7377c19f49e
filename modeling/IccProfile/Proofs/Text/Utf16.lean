import IccProfile.Proofs.Bytes
import IccProfile.Proofs.Text.Surrogates

/-!
# Reading and writing UTF-16

The units of a byte string are its 16 bit words at the even offsets (`getElem?_unitsOfBytes`), and
written again they are its bytes (`flatMap_ofWord16_take`). A text that was read has the units
before the first zero, so it is written as the bytes of these units (`toUtf16_of_ofUtf16?`).
`utf16_inverts` says of both directions what they invert, and which byte strings are no text.
-/

set_option autoImplicit false

namespace IccProfile.Text

variable {bs : Bytes} {text : String}

/-! ## Units and bytes -/

/-- A unit that was read from two bytes is written as these bytes. -/
theorem ofWord16_unit (high low : UInt8) :
    Bytes.ofWord16 (UInt16.ofNat (high.toNat * 256 + low.toNat)) = [high, low] := by
  have hhigh := high.toNat_lt
  have hlow := low.toNat_lt
  have hunit : (UInt16.ofNat (high.toNat * 256 + low.toNat)).toNat = Bytes.toNat [high, low] := by
    rw [UInt16.toNat_ofNat']
    simp only [Bytes.toNat, List.foldl_cons, List.foldl_nil]
    omega
  rw [Bytes.ofWord16, hunit]
  exact Bytes.ofNat_toNat [high, low]

/-- The units are the words at the even offsets, as far as both bytes of a word are there. -/
theorem getElem?_unitsOfBytes : ∀ (bs : Bytes) (i : Nat),
    (unitsOfBytes bs)[i]? = Bytes.u16At? bs (2 * i)
  | [], i => (Bytes.u16At?_of_lt (by rw [List.length_nil]; omega)).symm
  | [_], i => (Bytes.u16At?_of_lt (by rw [List.length_singleton]; omega)).symm
  | high :: low :: rest, 0 => by
      have hfirst : Bytes.HoldsAt (high :: low :: rest) 0 [high, low] :=
        Bytes.holdsAt_append [] [high, low] rest
      rw [← ofWord16_unit high low] at hfirst
      exact (Bytes.u16At?_eq_some_iff.mpr hfirst).symm
  | high :: low :: rest, i + 1 => by
      have hrest :
          Bytes.u16At? (high :: low :: rest) (2 * (i + 1)) = Bytes.u16At? rest (2 * i) := by
        have hfit : 2 * i + 2 + 2 ≤ rest.length + 1 + 1 ↔ 2 * i + 2 ≤ rest.length := by omega
        simp only [Bytes.u16At?, Bytes.slice?, List.length_cons, Nat.mul_add, Nat.mul_one, hfit,
          List.drop_succ_cons]
      rw [unitsOfBytes, List.getElem?_cons_succ, getElem?_unitsOfBytes rest i, hrest]

/-- The first units are written as the bytes that they were read from. -/
theorem flatMap_ofWord16_take : ∀ (bs : Bytes) (n : Nat), n ≤ (unitsOfBytes bs).length →
    ((unitsOfBytes bs).take n).flatMap Bytes.ofWord16 = bs.take (2 * n)
  | _, 0, _ => rfl
  | [], n + 1, h | [_], n + 1, h => absurd h (Nat.not_succ_le_zero n)
  | high :: low :: rest, n + 1, h => by
      rw [unitsOfBytes, List.take_succ_cons, List.flatMap_cons, ofWord16_unit,
        flatMap_ofWord16_take rest n (Nat.le_of_succ_le_succ h)]
      rfl

/-! ## Both directions -/

/-- A text that was read is written as the bytes of the units before the first zero. -/
theorem toUtf16_of_ofUtf16? (h : ofUtf16? bs = some text) :
    toUtf16 text = bs.take (2 * (textUnits bs).length) := by
  have hprefix : textUnits bs <+: unitsOfBytes bs := List.takeWhile_prefix _
  calc toUtf16 text
      = (textUnits bs).flatMap Bytes.ofWord16 := by rw [toUtf16, (ofUtf16?_eq_some_iff.mp h).2]
    _ = ((unitsOfBytes bs).take (textUnits bs).length).flatMap Bytes.ofWord16 := by
        rw [← List.prefix_iff_eq_take.mp hprefix]
    _ = bs.take (2 * (textUnits bs).length) := flatMap_ofWord16_take bs _ hprefix.length_le

theorem ofUtf16?_eq_none_iff : ofUtf16? bs = none ↔ ∃ i, UnpairedAt (textUnits bs) i := by
  rw [← charsOfUnits?_eq_none_iff, ofUtf16?, Option.map_eq_none_iff, textUnits]

/-- What is written of a text reads as the part before its first NUL. A byte string is not read
as a text exactly when one of its units before the first zero is half a pair without the other
half, and a text that was read is written as the bytes of these units. -/
theorem utf16_inverts :
    (∀ text : String, ofUtf16? (toUtf16 text) = some (beforeNul text)) ∧
      ∀ bs : Bytes,
        (∀ i, (unitsOfBytes bs)[i]? = Bytes.u16At? bs (2 * i)) ∧
          (ofUtf16? bs = none ↔ ∃ i, UnpairedAt (textUnits bs) i) ∧
          ∀ text, ofUtf16? bs = some text → toUtf16 text = bs.take (2 * (textUnits bs).length) :=
  ⟨ofUtf16?_toUtf16, fun bs =>
    ⟨getElem?_unitsOfBytes bs, ofUtf16?_eq_none_iff, fun _ => toUtf16_of_ofUtf16?⟩⟩

/-- A musical clef as a pair, a zero unit, half a pair and a byte without its unit. -/
def clefWithRest : Bytes := [0xD8, 0x34, 0xDD, 0x1E, 0, 0, 0xD8, 0x34, 65]

theorem utf16_inverts_clefWithRest :
    ofUtf16? clefWithRest = some "𝄞" ∧ toUtf16 "𝄞" = clefWithRest.take 4 ∧
      ofUtf16? (clefWithRest.drop 2) = none := by
  have hread : ofUtf16? clefWithRest = some "𝄞" := by decide +kernel
  have hunpaired : UnpairedAt (textUnits (clefWithRest.drop 2)) 0 := by
    refine .inr ⟨?_, .inl rfl⟩
    unfold LowAt
    decide +kernel
  exact ⟨hread, (utf16_inverts.2 clefWithRest).2.2 "𝄞" hread,
    (utf16_inverts.2 (clefWithRest.drop 2)).2.1.mpr ⟨0, hunpaired⟩⟩

end IccProfile.Text
