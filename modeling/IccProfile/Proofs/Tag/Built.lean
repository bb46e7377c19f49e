import IccProfile.Proofs.Tag.RoundTrip
import IccProfile.Tag.Basic

/-!
# Tags that can be made

A tag is read from a block or from an entry of a tag table, or it is made from data
that has a written form; `Tag.Built` says so. From its origin follows what writing
depends on: a built tag with bytes carries the type code of its block
(`Built.type_eq`), and one that is not corrupted has bytes (`Built.block_ne_nil`).

The content of a tag that was read is a function of its signature and its block
(`IsRead.sameContent`), so it is the same wherever the block is read again.
-/

set_option autoImplicit false

namespace IccProfile.Tag

/-- A tag that was decoded from bytes. -/
inductive IsRead : Tag → Prop
  | ofBlock (signature : Signature) (block : Bytes) : IsRead (ofBlock signature block)
  | ofContainer (container : Bytes) (signature : Signature) (offset size : UInt32)
      (preferred : Signature) : IsRead (ofContainer container signature offset size preferred)

/-- A tag that was decoded from bytes or made from data. -/
inductive Built : Tag → Prop
  | read {tag : Tag} (h : tag.IsRead) : Built tag
  | ofData {signature : Signature} {data : TagData} {tag : Tag}
      (h : ofData? signature data = some tag) : Built tag

/-- Two tags are stored alike: under one signature, with one block of one type. -/
structure SameStored (t u : Tag) : Prop where
  signature_eq : u.signature = t.signature
  type_eq : u.type = t.type
  block_eq : u.block = t.block

/-- Two tags that are stored alike were also decoded alike. -/
structure SameContent (t u : Tag) : Prop extends SameStored t u where
  status_eq : u.status = t.status
  usedSize_eq : u.usedSize = t.usedSize
  data_eq : u.data = t.data

variable {tag : Tag}

/-! ## Tags of blocks -/

section Block

variable (signature : Signature) (block : Bytes)

@[simp] theorem ofBlock_signature : (ofBlock signature block).signature = signature := by
  unfold ofBlock
  cases TagData.decode block <;> rfl

@[simp] theorem ofBlock_block : (ofBlock signature block).block = block := by
  unfold ofBlock
  cases TagData.decode block <;> rfl

theorem ofBlock_type : (ofBlock signature block).type = Bytes.wordAt block 0 := by
  unfold ofBlock
  cases TagData.decode block <;> rfl

/-- A block without bytes has no type code, so its tag is corrupted. -/
theorem ofBlock_nil_status : (ofBlock signature []).status = .corrupted := rfl

end Block

/-- A range of a container gives the tag of its block. -/
theorem ofContainer_of_slice? {container block : Bytes} {offset size : UInt32}
    (signature preferred : Signature)
    (h : Bytes.slice? container offset.toNat size.toNat = some block) :
    ofContainer container signature offset size preferred =
      { ofBlock signature block with
        offset := some offset
        modules := { profile := preferred, last := Signature.decoder } } := by
  simp only [ofContainer, h]

/-- A range outside a container gives a corrupted tag without bytes. -/
theorem ofContainer_of_none {container : Bytes} {offset size : UInt32}
    (signature preferred : Signature)
    (h : Bytes.slice? container offset.toNat size.toNat = none) :
    (ofContainer container signature offset size preferred).block = [] ∧
      (ofContainer container signature offset size preferred).status = .corrupted := by
  simp only [ofContainer, h, and_self]

/-! ## Built tags -/

/-- What a tag that was read holds is what its block decodes to. -/
theorem IsRead.sameContent (h : tag.IsRead) (hblock : tag.block ≠ []) :
    tag.SameContent (Tag.ofBlock tag.signature tag.block) := by
  cases h with
  | ofBlock signature block =>
      rw [ofBlock_signature, ofBlock_block]
      exact ⟨⟨rfl, rfl, rfl⟩, rfl, rfl, rfl⟩
  | ofContainer container signature offset size preferred =>
      cases hread : Bytes.slice? container offset.toNat size.toNat with
      -- a range outside the container leaves no bytes
      | none => exact absurd (ofContainer_of_none signature preferred hread).1 hblock
      | some block =>
          rw [ofContainer_of_slice? signature preferred hread]
          simp only [ofBlock_signature, ofBlock_block]
          exact ⟨⟨ofBlock_signature .., rfl, ofBlock_block ..⟩, rfl, rfl, rfl⟩

/-- A tag that was read and is not corrupted has bytes. -/
theorem IsRead.block_ne_nil (h : tag.IsRead) (hok : tag.status = .ok) : tag.block ≠ [] := by
  cases h with
  | ofBlock signature block =>
      intro hnil
      rw [ofBlock_block] at hnil
      rw [hnil, ofBlock_nil_status] at hok
      cases hok
  | ofContainer container signature offset size preferred =>
      cases hread : Bytes.slice? container offset.toNat size.toNat with
      | none =>
          rw [(ofContainer_of_none signature preferred hread).2] at hok
          cases hok
      | some block =>
          rw [ofContainer_of_slice? signature preferred hread] at hok ⊢
          intro hnil
          have hblock : block = [] := (ofBlock_block signature block).symm.trans hnil
          have hstatus : (Tag.ofBlock signature block).status = .ok := hok
          rw [hblock, ofBlock_nil_status] at hstatus
          cases hstatus

/-- A tag of data carries the written form of its data. -/
theorem ofData?_eq_some {signature : Signature} {data : TagData}
    (h : ofData? signature data = some tag) :
    data.encode? = some tag.block ∧ tag.type = data.type ∧ tag.signature = signature := by
  obtain ⟨block, hblock, htag⟩ := Option.map_eq_some_iff.mp h
  subst htag
  exact ⟨hblock, rfl, rfl⟩

/-- A built tag with bytes carries the type code at the start of its block. -/
theorem Built.type_eq (h : tag.Built) (hblock : tag.block ≠ []) :
    tag.type = Bytes.wordAt tag.block 0 := by
  cases h with
  | read h => rw [← (h.sameContent hblock).type_eq, ofBlock_type]
  | ofData h =>
      obtain ⟨hencode, htype, -⟩ := ofData?_eq_some h
      rw [htype, (TagData.holdsAt_type hencode).wordAt_word]

/-- A built tag that is not corrupted has bytes. -/
theorem Built.block_ne_nil (h : tag.Built) (hok : tag.status = .ok) : tag.block ≠ [] := by
  cases h with
  | read h => exact h.block_ne_nil hok
  | ofData h =>
      intro hnil
      -- every written form starts with four bytes of type code
      have hle := (TagData.holdsAt_type (ofData?_eq_some h).1).le_length
      rw [hnil, Bytes.length_ofWord32] at hle
      exact absurd hle (by decide)

/-- A built tag is stored as the tag of its block. -/
theorem Built.sameStored (h : tag.Built) (hblock : tag.block ≠ []) :
    tag.SameStored (ofBlock tag.signature tag.block) :=
  ⟨ofBlock_signature .., by rw [ofBlock_type, h.type_eq hblock], ofBlock_block ..⟩

end IccProfile.Tag
