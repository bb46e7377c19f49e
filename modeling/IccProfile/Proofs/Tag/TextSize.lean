import IccProfile.Proofs.Tag.UsedBytes
import IccProfile.Tag.Basic

/-!
# The used size of a text

A text takes the bytes of its block up to its zero, or the whole block when it has none
(`textEnd`). The used size is computed from the size of the decoded text instead, in which a byte
outside ASCII counts twice, and is cut at the end of the block (`reportedEnd`). So the two agree
exactly when all bytes of the text are ASCII or nothing stands behind its zero (`text_used`). A
letter with an accent and two zeros give a used size that is too large (`used_past_end`).
-/

set_option autoImplicit false

namespace IccProfile.PlainText

variable {block : Bytes}

/-- The bytes of the text of a block. -/
def textBytes (block : Bytes) : Bytes := (block.drop 8).takeWhile (· ≠ 0)

/-- The number of bytes of a text outside ASCII. -/
def wideCount (block : Bytes) : Nat := (textBytes block).countP (128 ≤ ·.toNat)

/-- Where the text of a block ends: behind its zero, or with the block when there is none. -/
def textEnd (block : Bytes) : Nat :=
  if 0 ∈ block.drop 8 then 8 + (textBytes block).length + 1 else block.length

/-- What is reported as used: each byte outside ASCII counts twice, up to the end of the block. -/
def reportedEnd (block : Bytes) : Nat :=
  min (8 + (textBytes block).length + wideCount block + 1) block.length

/-- A zero behind the text is in the block. -/
theorem length_textBytes_lt (h : 0 ∈ block.drop 8) :
    (textBytes block).length < (block.drop 8).length := by
  refine Nat.lt_of_le_of_ne (List.takeWhile_prefix _).length_le fun hall => ?_
  have hwhole := (List.takeWhile_prefix _).eq_of_length hall
  have hzero := List.takeWhile_eq_self_iff.mp hwhole 0 h
  exact absurd rfl (of_decide_eq_true hzero)

/-- Without a zero the text is all that is left of the block. -/
theorem textBytes_eq_drop (h : 0 ∉ block.drop 8) : textBytes block = block.drop 8 :=
  List.takeWhile_eq_self_iff.mpr fun b hb =>
    decide_eq_true fun hzero : b = 0 => h (hzero ▸ hb)

/-- What a block of at least eight bytes is read as. -/
theorem decode_of_le (h : 8 ≤ block.length) :
    decode block = .ok (Text.ofBytes (block.drop 8), reportedEnd block) := by
  have hsize := Text.utf8ByteSize_ofBytes (block.drop 8)
  rw [← textBytes, ← wideCount] at hsize
  rw [decode, if_neg (Nat.not_lt.mpr h)]
  simp only [hsize, reportedEnd, List.length_drop, Except.ok.injEq, Prod.mk.injEq, true_and]
  omega

/-- The report is the end of the text when no byte counts twice, or when the end of the block makes
up for it. -/
theorem reportedEnd_eq_textEnd_iff (h : 8 ≤ block.length) :
    reportedEnd block = textEnd block ↔
      wideCount block = 0 ∨ block.length ≤ 8 + (textBytes block).length + 1 := by
  rw [reportedEnd, textEnd]
  by_cases hzero : 0 ∈ block.drop 8
  · have hlt := length_textBytes_lt hzero
    rw [List.length_drop] at hlt
    rw [if_pos hzero]
    omega
  -- without a zero the text and the block end together
  · have hlength : (textBytes block).length = block.length - 8 := by
      rw [textBytes_eq_drop hzero, List.length_drop]
    rw [if_neg hzero]
    omega

/-- The decoder of a text, and so the tag of its block, reports the end of the text as used but
for the bytes outside ASCII, which count twice as far as the block goes on. So the report is the
end of the text exactly when there is no such byte or nothing stands behind the zero. -/
theorem text_used (htype : Bytes.u32At? block 0 = some Signature.typeText)
    (hlength : 8 ≤ block.length) :
    decode block = .ok (Text.ofBytes (block.drop 8), reportedEnd block) ∧
      (∀ signature, (Tag.ofBlock signature block).usedSize = reportedEnd block) ∧
      (∀ container signature offset size preferred,
        Bytes.slice? container offset.toNat size.toNat = some block →
          (Tag.ofContainer container signature offset size preferred).usedSize =
            reportedEnd block) ∧
      (reportedEnd block = textEnd block ↔
        wideCount block = 0 ∨ block.length ≤ 8 + (textBytes block).length + 1) := by
  have hdecode := decode_of_le hlength
  have hdata : TagData.decode block =
      .ok (.text (Text.ofBytes (block.drop 8)), reportedEnd block) := by
    rw [TagData.decode, htype]
    simp only [TagData.decodeType, if_true, hdecode]
    rfl
  have htag (signature : Signature) :
      (Tag.ofBlock signature block).usedSize = reportedEnd block := by
    simp only [Tag.ofBlock, hdata]
  refine ⟨hdecode, htag, ?_, reportedEnd_eq_textEnd_iff hlength⟩
  intro container signature offset size preferred hblock
  rw [Tag.ofContainer, hblock]
  exact htag signature

/-- A text with an accent that fills its block, without a zero. -/
def accented : Bytes := blockHead Signature.typeText ++ [72, 0xE9]

theorem text_used_accented :
    Bytes.u32At? accented 0 = some Signature.typeText ∧ 8 ≤ accented.length ∧
      wideCount accented = 1 ∧ decode accented = .ok ("Hé", 10) ∧ textEnd accented = 10 := by
  have htype : Bytes.u32At? accented 0 = some Signature.typeText := by decide
  have hlength : 8 ≤ accented.length := by decide
  obtain ⟨hdecode, -, -, hend⟩ := text_used htype hlength
  have hreport : reportedEnd accented = 10 := by decide
  rw [hreport] at hdecode hend
  exact ⟨htype, hlength, by decide, hdecode, (hend.mpr (.inr (by decide))).symm⟩

/-- The letter alone, with its zero and one more byte: the text ends behind the zero, and all bytes
are reported as used. -/
theorem used_past_end :
    let block := blockHead Signature.typeText ++ [0xE9, 0, 0]
    textEnd block = 10 ∧ decode block = .ok ("é", 11) ∧
      (Tag.ofBlock Signature.copyright block).usedSize = 11 ∧
      (Tag.ofContainer block Signature.copyright 0 11 0).usedSize = 11 := by
  decide +kernel

end IccProfile.PlainText
