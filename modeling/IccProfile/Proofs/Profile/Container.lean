import IccProfile.Profile.Written
import IccProfile.Proofs.Header.Field
import IccProfile.Proofs.Profile.Accepted
import IccProfile.Proofs.Tag.Built
import Mathlib.Algebra.GroupWithZero.Nat
import Mathlib.Data.List.Forall2

/-!
# Containers that were written

A profile is written as a container: a header, a tag table, and the blocks at multiples
of four. `tagsFrom_written` walks the table of a container that was written and gives
the written tags again, each at the place where its block stands; the walk carries two
facts, the place of the rest of the table and the place of the rest of the blocks.

`accepted_of_rewritten` says that what is written anew is accepted, and
`tags_fresh_container` which tags are read from it.
-/

set_option autoImplicit false

namespace IccProfile.Profile

open Bytes (HoldsAt)

/-- The blocks of tags, each filled up to a multiple of four. -/
def blocks (tags : List Tag) : Bytes := tags.flatMap fun tag => Bytes.pad4 tag.block

/-- A header, a tag table and blocks. -/
def container (header : HeaderBlock) (tags : List Tag) : Bytes :=
  header.val ++ (Bytes.ofSize tags.length
    ++ (tableEntries (tableEnd tags.length) tags ++ blocks tags))

/-- The tags of a container that was written, the first block at the given offset. -/
def placed (preferred : Signature) : (offset : Nat) → List Tag → List Tag
  | _, [] => []
  | offset, tag :: rest =>
    { Tag.ofBlock tag.signature tag.block with
      offset := some (UInt32.ofNat offset)
      modules := { profile := preferred, last := Signature.decoder } }
      :: placed preferred (offset + Bytes.ceil4 tag.block.length) rest

/-! ## Layout -/

theorem length_tableEntries (offset : Nat) (tags : List Tag) :
    (tableEntries offset tags).length = tags.length * 12 := by
  induction tags generalizing offset with
  | nil => rfl
  | cons tag rest ih =>
      simp only [tableEntries, List.length_append, Bytes.length_ofWord32, Bytes.length_ofSize, ih,
        List.length_cons]
      omega

theorem length_blocks (tags : List Tag) :
    (blocks tags).length = (tags.map fun tag => Bytes.ceil4 tag.block.length).sum := by
  simp [blocks, List.length_flatMap]

theorem length_container (header : HeaderBlock) (tags : List Tag) :
    (container header tags).length = tableEnd tags.length + (blocks tags).length := by
  simp only [container, List.length_append, header.property, Bytes.length_ofSize,
    length_tableEntries, tableEnd, headerSize, minProfileSize]
  omega

section Alike

variable {tags others : List Tag} (h : List.Forall₂ Tag.SameStored tags others)
include h

theorem tableEntries_congr (offset : Nat) :
    tableEntries offset others = tableEntries offset tags := by
  induction h generalizing offset with
  | nil => rfl
  | cons hfirst _ ih => simp only [tableEntries, hfirst.signature_eq, hfirst.block_eq, ih]

theorem blocks_congr : blocks others = blocks tags := by
  induction h with
  | nil => rfl
  | cons hfirst _ ih =>
      simp only [blocks, List.flatMap_cons, hfirst.block_eq]
      exact congrArg _ ih

/-- A container is made of the signatures and the blocks of its tags alone. -/
theorem container_congr (header : HeaderBlock) :
    container header others = container header tags := by
  rw [container, container, tableEntries_congr h, blocks_congr h, h.length_eq]

/-- Tags that are stored like tags with bytes have bytes. -/
theorem block_ne_nil_of_alike (hblocks : ∀ tag ∈ tags, tag.block ≠ []) :
    ∀ tag ∈ others, tag.block ≠ [] := by
  induction h with
  | nil => exact fun _ htag => nomatch htag
  | cons hfirst _ ih =>
      obtain ⟨hblock, hrest⟩ := List.forall_mem_cons.mp hblocks
      rw [List.forall_mem_cons]
      exact ⟨by rwa [hfirst.block_eq], ih hrest⟩

end Alike

/-- Stamping a container stamps its header. -/
theorem stamp_container (id : ProfileId) (header : HeaderBlock) (tags : List Tag) :
    id.stamp (container header tags) = container (id.stampHeader header) tags :=
  ProfileId.stamp_append ..

theorem take_container (header : HeaderBlock) (tags : List Tag) :
    (container header tags).take headerSize = header.val :=
  List.take_left' header.property

section Parts

variable (header : HeaderBlock) (tags : List Tag)

/-- The parts of a header stand in a container with this header. -/
theorem holdsAt_container_header {offset : Nat} {part : Bytes}
    (h : HoldsAt header.val offset part) : HoldsAt (container header tags) offset part := by
  have hall := (Bytes.holdsAt_self (container header tags)).left.trans h
  rwa [Nat.zero_add] at hall

theorem holdsAt_container_count :
    HoldsAt (container header tags) headerSize (Bytes.ofSize tags.length) :=
  ((Bytes.holdsAt_self (container header tags)).behind
    (by rw [header.property, Nat.zero_add])).left

theorem holdsAt_container_table :
    HoldsAt (container header tags) minProfileSize
      (tableEntries (tableEnd tags.length) tags ++ blocks tags) :=
  ((Bytes.holdsAt_self (container header tags)).behind
    (by rw [header.property, Nat.zero_add])).behind (by rw [Bytes.length_ofSize]; rfl)

theorem holdsAt_container_blocks :
    HoldsAt (container header tags) (tableEnd tags.length) (blocks tags) :=
  (holdsAt_container_table header tags).behind (by rw [length_tableEntries, tableEnd])

end Parts

/-- A container declares the number of its tags. -/
theorem declaredTagCount_container (header : HeaderBlock) (tags : List Tag)
    (hlength : (container header tags).length < UInt32.size) :
    declaredTagCount (container header tags) = tags.length := by
  rw [length_container, tableEnd] at hlength
  rw [declaredTagCount, (holdsAt_container_count header tags).wordAt,
    UInt32.toNat_ofNat_of_lt' (by omega)]

/-! ## Walking the table -/

/-- The walk over a written table gives the written tags, each at the place of its block. -/
theorem tagsFrom_written {data : Bytes} (preferred : Signature)
    (hlength : data.length < UInt32.size) (tags : List Tag) (offset index : Nat)
    (htable : HoldsAt data (minProfileSize + index * 12) (tableEntries offset tags))
    (hblocks : HoldsAt data offset (blocks tags)) :
    tagsFrom data preferred tags.length index = placed preferred offset tags := by
  induction tags generalizing offset index with
  | nil => rfl
  | cons tag rest ih =>
      rw [tableEntries, List.append_assoc, List.append_assoc] at htable
      rw [blocks, List.flatMap_cons] at hblocks
      -- an entry is a signature, the place of the block and its length
      have hsignature := htable.left.u32At?_word
      have hplace := htable.right
      rw [Bytes.length_ofWord32] at hplace
      have hsize := hplace.right
      rw [Bytes.length_ofSize, Nat.add_assoc] at hsize
      have hrest : HoldsAt data (minProfileSize + (index + 1) * 12) _ :=
        hsize.behind (by rw [Bytes.length_ofSize]; omega)
      -- the block lies in the container, so its place and its length are words
      have hblock := hblocks.left.of_pad4
      have hend := hblock.le_length
      have hread : Bytes.slice? data (UInt32.ofNat offset).toNat
          (UInt32.ofNat tag.block.length).toNat = some tag.block := by
        rw [UInt32.toNat_ofNat_of_lt' (by omega), UInt32.toNat_ofNat_of_lt' (by omega)]
        exact hblock
      simp only [List.length_cons, tagsFrom, hsignature, hplace.left.u32At?, hsize.left.u32At?,
        placed, Tag.ofContainer_of_slice? tag.signature preferred hread]
      rw [ih _ _ hrest hblocks.behind_pad4]

/-- The tags of a container that was written are alike to the tags that were written. -/
theorem forall₂_placed (preferred : Signature) (tags : List Tag) (offset : Nat)
    (h : ∀ tag ∈ tags, tag.Built ∧ tag.block ≠ []) :
    List.Forall₂ (fun t u => t.SameStored u ∧ (t.IsRead → t.SameContent u)) tags
      (placed preferred offset tags) := by
  induction tags generalizing offset with
  | nil => exact .nil
  | cons tag rest ih =>
      obtain ⟨hbuilt, hblock⟩ := h tag List.mem_cons_self
      -- the place and the color modules are new, all else comes from the block
      refine .cons ⟨?_, ?_⟩ (ih _ fun t ht => h t (List.mem_cons_of_mem tag ht))
      · obtain ⟨hsignature, htype, hsame⟩ := hbuilt.sameStored hblock
        exact ⟨hsignature, htype, hsame⟩
      · intro hread
        obtain ⟨⟨hsignature, htype, hsame⟩, hstatus, hused, hdata⟩ := hread.sameContent hblock
        exact ⟨⟨hsignature, htype, hsame⟩, hstatus, hused, hdata⟩

/-- A tag that was written is found under its signature, with what its block holds. -/
theorem find?_placed (preferred : Signature) {tags : List Tag} {tag : Tag} {signature : Signature}
    (h : tags.find? (·.signature = signature) = some tag) (offset : Nat) :
    ∃ u, (placed preferred offset tags).find? (·.signature = signature) = some u ∧
      u.status = (Tag.ofBlock tag.signature tag.block).status ∧
      u.data = (Tag.ofBlock tag.signature tag.block).data := by
  induction tags generalizing offset with
  | nil => cases h
  | cons first rest ih =>
      rw [List.find?_cons] at h
      rw [placed, List.find?_cons]
      simp only [Tag.ofBlock_signature]
      by_cases hfirst : first.signature = signature
      · rw [decide_eq_true hfirst] at h ⊢
        obtain rfl := Option.some.inj h
        exact ⟨_, rfl, rfl, rfl⟩
      · rw [decide_eq_false hfirst] at h ⊢
        exact ih h _

/-! ## Reading a container -/

/-- A container is accepted when its header carries the code and its length. -/
theorem accepted_container {header : HeaderBlock} {tags : List Tag}
    (hmagic : HoldsAt header.val 36 (Bytes.ofWord32 Signature.magic))
    (hsize : HoldsAt header.val 0 (Bytes.ofWord32 (UInt32.ofNat (container header tags).length)))
    (hlength : (container header tags).length < UInt32.size) :
    Accepted (container header tags) := by
  have htotal := length_container header tags
  rw [tableEnd] at htotal
  constructor
  · omega
  · exact (holdsAt_container_header header tags hmagic).wordAt_word
  · rw [(holdsAt_container_header header tags hsize).wordAt_word, UInt32.toNat_ofNat_of_lt' hlength]
  · rw [declaredTagCount_container header tags hlength]
    omega

/-- The header of a container is the header that it was made of. -/
theorem leadingHeader_container {data : Bytes} {header : HeaderBlock} {tags : List Tag}
    (hdata : data = container header tags) (h : headerSize ≤ data.length) :
    leadingHeader data h = header := by
  subst hdata
  exact Subtype.ext (take_container header tags)

/-- The tags of a container are the tags that it was made of. -/
theorem tags_fresh_container {data : Bytes} {header : HeaderBlock} {tags : List Tag}
    (hdata : data = container header tags) (h : headerSize ≤ data.length)
    (hlength : data.length < UInt32.size) :
    (fresh data h).tags =
      placed (HeaderField.cmm.read header.val) (tableEnd tags.length) tags := by
  have htags : (fresh data h).tags =
      tagsFrom data (HeaderField.cmm.read (leadingHeader data h).val) (declaredTagCount data) 0 :=
    rfl
  rw [htags, leadingHeader_container hdata h]
  subst hdata
  rw [declaredTagCount_container header tags hlength]
  exact tagsFrom_written _ hlength tags _ 0 (holdsAt_container_table header tags).left
    (holdsAt_container_blocks header tags)

/-! ## The written form -/

/-- The header as it is written, with the length of the container. -/
def sizedHeader (p : Profile) : HeaderBlock :=
  p.writtenHeader.write .size
    (UInt32.ofNat (tableEnd p.writtenTags.length + (blocks p.writtenTags).length))

/-- The bytes of a header that writing sets: those of the size, the code, the platform and the
ID, and those of a version that is zero. -/
def SetByWriting (header : HeaderBlock) (i : Nat) : Prop :=
  HeaderField.size.Covers i ∨ HeaderField.magic.Covers i ∨ HeaderField.platform.Covers i ∨
    (idOffset ≤ i ∧ i < idOffset + 16) ∨
    (HeaderField.version.read header.val = 0 ∧ HeaderField.version.Covers i)

variable {p : Profile}

theorem serialize_eq (p : Profile) : p.serialize = container p.sizedHeader p.writtenTags := by
  simp only [serialize, container, sizedHeader, blocks, List.append_assoc]

theorem toBytes_of_unchanged {data : Bytes} (h : p.unchangedBytes? = some data) :
    p.toBytes = data := by
  rw [toBytes, h]

theorem computedId_of_unchanged {data : Bytes} (h : p.unchangedBytes? = some data) :
    p.computedId = ProfileId.ofContent data := by
  rw [computedId, h]

theorem computedId_of_rewritten (h : p.unchangedBytes? = none) :
    p.computedId = ProfileId.ofContent p.serialize := by
  rw [computedId, h]

/-- What is written anew is the container of the written tags, with the computed identity. -/
theorem toBytes_of_rewritten (h : p.unchangedBytes? = none) :
    p.toBytes = container (p.computedId.stampHeader p.sizedHeader) p.writtenTags := by
  rw [computedId_of_rewritten h, ← stamp_container, ← serialize_eq, toBytes, h]

/-- The written header carries the code. -/
theorem holdsAt_writtenHeader_magic (p : Profile) :
    HoldsAt p.writtenHeader.val 36 (Bytes.ofWord32 Signature.magic) := by
  have hmagic := HeaderBlock.holdsAt_write .magic rfl
    (ProfileId.zero.stampHeader (p.header.getD HeaderBlock.zero)) Signature.magic
  unfold writtenHeader
  simp only
  split
  · rw [HeaderBlock.val_write, HeaderBlock.val_write]
    exact (hmagic.write (.inr (by decide)) _).write (.inl (by decide)) _
  · rw [HeaderBlock.val_write]
    exact hmagic.write (.inl (by decide)) _

/-- Writing sets no other bytes of the header. -/
theorem getElem?_sizedHeader (id : ProfileId) {i : Nat}
    (hi : ¬ SetByWriting (p.header.getD HeaderBlock.zero) i) :
    (id.stampHeader p.sizedHeader).val[i]? = (p.header.getD HeaderBlock.zero).val[i]? := by
  generalize hheader : p.header.getD HeaderBlock.zero = header at hi ⊢
  simp only [SetByWriting, not_or] at hi
  obtain ⟨hsize, hmagic, hplatform, hid, hversion⟩ := hi
  have hstamp : i < idOffset ∨ idOffset + 16 ≤ i := by omega
  -- the version is looked at when the ID and the code are written already
  have hread : HeaderField.version.read
      ((ProfileId.zero.stampHeader header).write .magic Signature.magic).val =
        HeaderField.version.read header.val := by
    rw [HeaderBlock.val_write, HeaderField.read_write (by decide),
      HeaderBlock.val_stampHeader, HeaderField.read_stamp]
  have hstart : ((ProfileId.zero.stampHeader header).write .magic Signature.magic).val[i]? =
      header.val[i]? := by
    rw [HeaderBlock.val_write, HeaderField.getElem?_write hmagic, HeaderBlock.val_stampHeader,
      ProfileId.getElem?_stamp _ _ hstamp]
  have hwritten : p.writtenHeader.val[i]? = header.val[i]? := by
    simp only [writtenHeader, hheader]
    rw [HeaderBlock.val_write, HeaderField.getElem?_write hplatform]
    split
    · next hzero =>
      have hnot : ¬ HeaderField.version.Covers i := fun hin => hversion ⟨hread ▸ hzero, hin⟩
      rw [HeaderBlock.val_write, HeaderField.getElem?_write hnot, hstart]
    · exact hstart
  rw [HeaderBlock.val_stampHeader, ProfileId.getElem?_stamp _ _ hstamp, sizedHeader,
    HeaderBlock.val_write, HeaderField.getElem?_write hsize, hwritten]

/-- What is written anew is accepted, as long as its length is a word. -/
theorem accepted_of_rewritten (h : p.unchangedBytes? = none)
    (hlength : p.toBytes.length < UInt32.size) : Accepted p.toBytes := by
  rw [toBytes_of_rewritten h] at hlength ⊢
  have hmagic : HoldsAt p.sizedHeader.val 36 (Bytes.ofWord32 Signature.magic) := by
    rw [sizedHeader, HeaderBlock.val_write]
    exact (holdsAt_writtenHeader_magic p).write (.inr (by decide)) _
  have hsize : HoldsAt p.sizedHeader.val 0 (Bytes.ofWord32
      (UInt32.ofNat (tableEnd p.writtenTags.length + (blocks p.writtenTags).length))) :=
    HeaderBlock.holdsAt_write .size rfl _ _
  rw [← length_container (p.computedId.stampHeader p.sizedHeader)] at hsize
  -- the ID is stored apart from the code and the size
  apply accepted_container _ _ hlength
  · exact hmagic.patch (.inl (by rw [Bytes.length_ofWord32]; decide))
  · exact hsize.patch (.inl (by rw [Bytes.length_ofWord32]; decide))

end IccProfile.Profile
