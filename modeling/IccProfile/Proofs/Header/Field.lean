import IccProfile.Header.Version
import IccProfile.Identity
import IccProfile.Proofs.Bytes

/-!
# Writing header fields

A field that was written stands in the header (`HeaderBlock.holdsAt_write`), and writing
it changes no byte that it does not cover (`HeaderField.getElem?_write`) and no part apart
from it (`HoldsAt.write`). Writing the value that a field has changes nothing
(`HeaderBlock.write_read`). No two fields share a byte (`HeaderField.apart`), so each is a
register of its own (`HeaderField.read_write_self`, `HeaderField.read_write`).
-/

set_option autoImplicit false

namespace IccProfile

open Bytes (HoldsAt)

namespace HeaderField

/-- The field holds the byte at a place of the header. -/
def Covers (field : HeaderField) (i : Nat) : Prop :=
  field.offset ≤ i ∧ i < field.offset + field.width

variable {field : HeaderField} {block : Bytes}

/-- Every field lies in the header. -/
theorem end_le_headerSize (field : HeaderField) : field.offset + field.width ≤ headerSize := by
  cases field <;> decide

/-- A part of the date has two bytes, every other field four. -/
theorem width_eq (field : HeaderField) : field.width = 2 ∨ field.width = 4 := by
  cases field <;> decide

theorem mem_all (field : HeaderField) : field ∈ all := by
  cases field <;> decide

/-- No byte is in two fields. -/
theorem apart {other : HeaderField} (h : field ≠ other) :
    other.offset + other.width ≤ field.offset ∨ field.offset + field.width ≤ other.offset := by
  have hall : ∀ f ∈ all, ∀ g ∈ all, f ≠ g →
      g.offset + g.width ≤ f.offset ∨ f.offset + f.width ≤ g.offset := by
    decide +kernel
  exact hall field (mem_all field) other (mem_all other) h

/-- Writing a field leaves the bytes that it does not cover. -/
theorem getElem?_write {i : Nat} (h : ¬ field.Covers i) (block : Bytes) (value : UInt32) :
    (field.write block value)[i]? = block[i]? := by
  rw [write, Bytes.getElem?_patch, Bytes.length_ofNat, if_neg (fun hin => h hin.2)]

/-- Writing a field leaves all others. -/
theorem read_write {other : HeaderField} (h : field ≠ other) (block : Bytes) (value : UInt32) :
    other.read (field.write block value) = other.read block := by
  rw [read, write, Bytes.slice?_patch (by rw [Bytes.length_ofNat]; exact apart h), read]

/-- The number that stands in the place of a field is its value. -/
theorem read_of_ofNat {n : Nat} (h : HoldsAt block field.offset (Bytes.ofNat field.width n)) :
    field.read block = UInt32.ofNat (n % Bytes.capacity field.width) := by
  rw [read, h.slice? (Bytes.length_ofNat ..).symm]
  exact congrArg UInt32.ofNat (Bytes.toNat_ofNat ..)

/-- What a field keeps of a value: the low 16 bits in a part of the date. -/
def kept (field : HeaderField) (value : UInt32) : UInt32 :=
  if field.width = 2 then value % 0x10000 else value

/-- A field that was written has what it keeps of the value. -/
theorem read_write_self (h : headerSize ≤ block.length) (value : UInt32) :
    field.read (field.write block value) = field.kept value := by
  have hend := field.end_le_headerSize
  have hheld : HoldsAt (field.write block value) field.offset
      (Bytes.ofNat field.width value.toNat) :=
    Bytes.holdsAt_patch (by rw [Bytes.length_ofNat]; omega)
  apply UInt32.toNat_inj.mp
  rw [read_of_ofNat hheld, kept]
  rcases field.width_eq with hwidth | hwidth
  · have hcapacity : Bytes.capacity field.width = 0x10000 := by rw [hwidth]; rfl
    rw [hcapacity, if_pos hwidth, UInt32.toNat_mod, UInt32.toNat_ofNat']
    exact Nat.mod_eq_of_lt (Nat.lt_trans (Nat.mod_lt _ (by decide)) (by decide))
  · have hcapacity : Bytes.capacity field.width = UInt32.size := by rw [hwidth]; rfl
    rw [hcapacity, if_neg (by omega), Nat.mod_eq_of_lt value.toNat_lt, UInt32.ofNat_toNat]

/-- A word that stands in the place of a field is its value. -/
theorem read_of_holdsAt (hwidth : field.width = 4) {value : UInt32}
    (h : HoldsAt block field.offset (Bytes.ofWord32 value)) : field.read block = value := by
  rw [read, h.slice? (by rw [hwidth, Bytes.length_ofWord32])]
  exact Bytes.ofNat_toNat_ofWord32 value

/-- So is a half word in the place of a part of the date. -/
theorem read_of_half (hwidth : field.width = 2) {value : UInt16}
    (h : HoldsAt block field.offset (Bytes.ofWord16 value)) :
    field.read block = value.toUInt32 := by
  have hlt : value.toNat < Bytes.capacity 2 := value.toNat_lt
  rw [Bytes.ofWord16, ← hwidth] at h
  rw [read_of_ofNat h, hwidth, Nat.mod_eq_of_lt hlt, ← UInt16.toNat_toUInt32, UInt32.ofNat_toNat]

/-- The fields of a header of zeros are zero. -/
theorem read_zero (field : HeaderField) : field.read HeaderBlock.zero.val = 0 := by
  have hend := field.end_le_headerSize
  have hread : Bytes.slice? HeaderBlock.zero.val field.offset field.width =
      some (List.replicate field.width 0) := by
    rw [HeaderBlock.zero, Bytes.slice?, List.length_replicate, if_pos hend, List.drop_replicate,
      List.take_replicate, Nat.min_eq_left (by omega)]
  rw [read, hread]
  cases field <;> rfl

/-- Storing an ID leaves the fields. -/
theorem read_stamp (field : HeaderField) (id : ProfileId) (block : Bytes) :
    field.read (id.stamp block) = field.read block := by
  have hapart : field.offset + field.width ≤ idOffset ∨ idOffset + 16 ≤ field.offset := by
    cases field <;> decide
  rw [read, ProfileId.stamp, Bytes.slice?_patch (by rw [id.length_eq]; exact hapart), read]

/-- The major version is the first byte of its field. -/
theorem major_read_version {block : Bytes} (h : headerSize ≤ block.length) :
    (Version.ofWord (HeaderField.version.read block)).major = block.getD 8 0 := by
  have hfit : 8 + 4 ≤ block.length := Nat.le_trans (by decide) h
  have hread : Bytes.slice? block version.offset version.width = some ((block.drop 8).take 4) :=
    Bytes.slice?_eq_some_iff.mpr ⟨hfit, rfl⟩
  have hfirst : ((block.drop 8).take 4)[0]? = block[8]? := by
    rw [List.getElem?_take_of_lt (by decide), List.getElem?_drop]
  have hlength := Bytes.length_of_slice? hread
  rw [read, hread, List.getD_eq_getElem?_getD, ← hfirst]
  match (block.drop 8).take 4, hlength with
  | [a, b, c, d], _ =>
      have ha := a.toNat_lt
      have hb := b.toNat_lt
      have hc := c.toNat_lt
      have hd := d.toNat_lt
      apply UInt8.toNat_inj.mp
      simp only [Version.ofWord, Version.ofBytes, Bytes.toNat, List.foldl_cons, List.foldl_nil,
        UInt8.toNat_ofNat', UInt32.toNat_ofNat', List.getElem?_cons_zero, Option.getD_some]
      omega

end HeaderField

/-- Writing a field leaves the parts apart from it. -/
theorem Bytes.HoldsAt.write {block part : Bytes} {start : Nat} (h : HoldsAt block start part)
    {field : HeaderField}
    (hapart : start + part.length ≤ field.offset ∨ field.offset + field.width ≤ start)
    (value : UInt32) : HoldsAt (field.write block value) start part :=
  h.patch (by rw [Bytes.length_ofNat]; exact hapart)

namespace HeaderBlock

theorem headerSize_le (header : HeaderBlock) : headerSize ≤ header.val.length :=
  Nat.le_of_eq header.property.symm

theorem val_write (field : HeaderField) (header : HeaderBlock) (value : UInt32) :
    (header.write field value).val = field.write header.val value := rfl

theorem val_stampHeader (id : ProfileId) (header : HeaderBlock) :
    (id.stampHeader header).val = id.stamp header.val := rfl

/-- Writing a field of a byte string that starts with a header writes that of the header. -/
theorem write_append (field : HeaderField) (header : HeaderBlock) (rest : Bytes) (value : UInt32) :
    field.write (header.val ++ rest) value = (header.write field value).val ++ rest :=
  Bytes.patch_append (by rw [Bytes.length_ofNat, header.property]; exact field.end_le_headerSize)

/-- A written word stands in the place of its field. -/
theorem holdsAt_write (field : HeaderField) (hwidth : field.width = 4) (header : HeaderBlock)
    (value : UInt32) :
    HoldsAt (header.write field value).val field.offset (Bytes.ofWord32 value) := by
  have hend := field.end_le_headerSize
  rw [val_write, HeaderField.write, hwidth]
  exact Bytes.holdsAt_patch (by rw [Bytes.length_ofNat, header.property]; omega)

/-- Writing a word that stands in the place of its field changes nothing. -/
theorem write_eq_self {field : HeaderField} (hwidth : field.width = 4) {header : HeaderBlock}
    {value : UInt32} (h : HoldsAt header.val field.offset (Bytes.ofWord32 value)) :
    header.write field value = header := by
  apply Subtype.ext
  rw [val_write, HeaderField.write, hwidth]
  exact Bytes.patch_eq_self h

/-- Writing the value that a field has changes nothing. -/
theorem write_read (field : HeaderField) (header : HeaderBlock) :
    header.write field (field.read header.val) = header := by
  have hend := field.end_le_headerSize
  obtain ⟨stored, hstored⟩ : ∃ stored,
      Bytes.slice? header.val field.offset field.width = some stored := by
    rw [Bytes.slice?, if_pos (by rw [header.property]; exact hend)]
    exact ⟨_, rfl⟩
  have hlength := Bytes.length_of_slice? hstored
  -- a field has at most four bytes, so its number is a word
  have hword : (UInt32.ofNat (Bytes.toNat stored)).toNat = Bytes.toNat stored := by
    apply UInt32.toNat_ofNat_of_lt'
    have hlt := Bytes.toNat_lt stored
    rw [hlength] at hlt
    exact Nat.lt_of_lt_of_le hlt (by cases field <;> decide)
  have hheld : HoldsAt header.val field.offset stored := by
    rw [HoldsAt, hlength]
    exact hstored
  apply Subtype.ext
  rw [val_write, HeaderField.write, HeaderField.read, hstored, hword, ← hlength,
    Bytes.ofNat_toNat]
  exact Bytes.patch_eq_self hheld

end HeaderBlock

end IccProfile
