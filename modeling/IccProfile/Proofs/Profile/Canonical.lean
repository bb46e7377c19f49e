import IccProfile.Proofs.Profile.Reload
import Mathlib.Order.Monotone.Basic

/-!
# The canonical form

What is written anew has one shape: the declared length is the length, the blocks stand
behind the table in the order of the tags, each at the sum of the padded lengths of
those before it (`blockStart`), and nothing but zeros stands between them.

Writing is stable. A header that was written is `Settled`, so writing it once more sets
nothing (`writtenHeader_of_settled`), and the tags that are read again have the blocks of
the tags that were written. `canonical` says both: where everything stands, and that the
profile read from a written form is written anew as the very same bytes.
-/

set_option autoImplicit false

namespace IccProfile.Profile

open Bytes (HoldsAt)

/-- The first byte of the block of a tag: behind the table and the blocks of the tags before. -/
def blockStart (tags : List Tag) (i : Nat) : Nat :=
  tableEnd tags.length + ((tags.take i).map fun tag => Bytes.ceil4 tag.block.length).sum

/-! ## Places of the blocks -/

theorem blocks_append (a b : List Tag) : blocks (a ++ b) = blocks a ++ blocks b := by
  simp [blocks]

/-- The entries of a table go on behind the blocks of those before. -/
theorem tableEntries_append (offset : Nat) (a b : List Tag) :
    tableEntries offset (a ++ b) =
      tableEntries offset a ++ tableEntries (offset + (blocks a).length) b := by
  induction a generalizing offset with
  | nil => simp [tableEntries, blocks]
  | cons tag rest ih =>
      simp only [List.cons_append, tableEntries, ih, List.append_assoc, length_blocks,
        List.map_cons, List.sum_cons, Nat.add_assoc]

/-- A list in three parts: the tags before one, the tag, and those behind it. -/
theorem eq_take_append {tags : List Tag} {i : Nat} {tag : Tag} (h : tags[i]? = some tag) :
    tags = tags.take i ++ tag :: tags.drop (i + 1) := by
  obtain ⟨hi, rfl⟩ := List.getElem?_eq_some_iff.mp h
  rw [← List.drop_eq_getElem_cons hi, List.take_append_drop]

theorem blockStart_succ {tags : List Tag} {i : Nat} {tag : Tag} (h : tags[i]? = some tag) :
    blockStart tags (i + 1) = blockStart tags i + Bytes.ceil4 tag.block.length := by
  obtain ⟨hi, rfl⟩ := List.getElem?_eq_some_iff.mp h
  simp only [blockStart, List.take_add_one, List.getElem?_eq_getElem hi, Option.toList_some,
    List.map_append, List.map_cons, List.map_nil, List.sum_append, List.sum_cons, List.sum_nil,
    Nat.add_zero, Nat.add_assoc]

theorem blockStart_mono (tags : List Tag) : Monotone (blockStart tags) := by
  apply monotone_nat_of_le_succ
  intro i
  cases h : tags[i]? with
  | none =>
      -- behind the last tag nothing is added
      have hle := List.getElem?_eq_none_iff.mp h
      simp [blockStart, List.take_of_length_le hle, List.take_of_length_le (Nat.le_succ_of_le hle)]
  | some tag =>
      rw [blockStart_succ h]
      exact Nat.le_add_right ..

/-- Blocks start at multiples of four. -/
theorem blockStart_mod (tags : List Tag) (i : Nat) : blockStart tags i % 4 = 0 := by
  have hsum : ∀ before : List Tag,
      (before.map fun tag => Bytes.ceil4 tag.block.length).sum % 4 = 0 := by
    intro before
    induction before with
    | nil => rfl
    | cons tag rest ih =>
        have hfirst := Bytes.ceil4_mod tag.block.length
        simp only [List.map_cons, List.sum_cons]
        omega
  have hbefore := hsum (tags.take i)
  simp only [blockStart, tableEnd, minProfileSize]
  omega

/-- Behind the last block a container ends. -/
theorem blockStart_length (header : HeaderBlock) (tags : List Tag) :
    blockStart tags tags.length = (container header tags).length := by
  rw [blockStart, List.take_length, length_container, length_blocks]

section Entry

variable (header : HeaderBlock) {tags : List Tag} {i : Nat} {tag : Tag}

/-- The entry of a tag in the table of a container. -/
theorem holdsAt_entry (h : tags[i]? = some tag) :
    HoldsAt (container header tags) (minProfileSize + i * 12)
      (Bytes.ofWord32 tag.signature ++ Bytes.ofSize (blockStart tags i)
        ++ Bytes.ofSize tag.block.length) := by
  have hi : i ≤ tags.length := Nat.le_of_lt (List.getElem?_eq_some_iff.mp h).1
  have htable := (holdsAt_container_table header tags).left
  rw [eq_take_append h, tableEntries_append, ← eq_take_append h, tableEntries] at htable
  have hplace : minProfileSize + i * 12 =
      minProfileSize + (tableEntries (tableEnd tags.length) (tags.take i)).length := by
    rw [length_tableEntries, List.length_take, Nat.min_eq_left hi]
  have hentry := (htable.behind hplace).left
  rwa [length_blocks, ← blockStart] at hentry

/-- The block of a tag in a container, filled up with zeros. -/
theorem holdsAt_block (h : tags[i]? = some tag) :
    HoldsAt (container header tags) (blockStart tags i) (Bytes.pad4 tag.block) := by
  have hblocks := holdsAt_container_blocks header tags
  rw [eq_take_append h, blocks_append, ← eq_take_append h, blocks, blocks,
    List.flatMap_cons] at hblocks
  exact (hblocks.behind (by rw [← blocks, length_blocks, blockStart])).left

end Entry

/-! ## Headers that were written -/

/-- A header that writing leaves as it is, but for the size. -/
structure Settled (header : HeaderBlock) : Prop where
  /-- There is no ID in it. -/
  id_eq : ProfileId.zero.stampHeader header = header
  magic : HoldsAt header.val HeaderField.magic.offset (Bytes.ofWord32 Signature.magic)
  version_ne : HeaderField.version.read header.val ≠ 0
  platform : HoldsAt header.val HeaderField.platform.offset (Bytes.ofWord32 Signature.platform)

/-- A new size leaves a settled header settled. -/
theorem Settled.write_size {header : HeaderBlock} (h : Settled header) (value : UInt32) :
    Settled (header.write .size value) where
  id_eq := by rw [ProfileId.stampHeader_write, h.id_eq]
  magic := h.magic.write (.inr (by decide)) value
  version_ne := by
    rw [HeaderBlock.val_write, HeaderField.read_write (by decide)]
    exact h.version_ne
  platform := h.platform.write (.inr (by decide)) value

theorem settled_writtenHeader (p : Profile) : Settled p.writtenHeader := by
  unfold writtenHeader
  simp only
  generalize p.header.getD HeaderBlock.zero = header
  constructor
  · rw [ProfileId.stampHeader_write]
    split
    · rw [ProfileId.stampHeader_write, ProfileId.stampHeader_write,
        ProfileId.stampHeader_stampHeader]
    · rw [ProfileId.stampHeader_write, ProfileId.stampHeader_stampHeader]
  · have hmagic := HeaderBlock.holdsAt_write .magic rfl (ProfileId.zero.stampHeader header)
      Signature.magic
    split
    · exact (hmagic.write (.inr (by decide)) _).write (.inl (by decide)) _
    · exact hmagic.write (.inl (by decide)) _
  · rw [HeaderBlock.val_write, HeaderField.read_write (by decide)]
    split
    -- a version of zero was replaced
    · rw [HeaderField.read_of_holdsAt rfl (HeaderBlock.holdsAt_write .version rfl _ _)]
      decide
    · next hversion => exact hversion
  · exact HeaderBlock.holdsAt_write .platform rfl _ _

theorem settled_sizedHeader (p : Profile) : Settled p.sizedHeader :=
  (settled_writtenHeader p).write_size _

/-- Writing a settled header sets nothing, whatever ID is in it. -/
theorem writtenHeader_of_settled {q : Profile} {header : HeaderBlock} {id : ProfileId}
    (h : Settled header) (hq : q.header = some (id.stampHeader header)) :
    q.writtenHeader = header := by
  have hstart : ProfileId.zero.stampHeader (q.header.getD HeaderBlock.zero) = header := by
    rw [hq, Option.getD_some, ProfileId.stampHeader_stampHeader, h.id_eq]
  simp only [writtenHeader, hstart, HeaderBlock.write_eq_self rfl h.magic, if_neg h.version_ne,
    HeaderBlock.write_eq_self rfl h.platform]

/-! ## Writing again -/

/-- A profile with the header and the tags of what was written is serialized alike. -/
theorem serialize_again {p q : Profile} {id : ProfileId}
    (hheader : q.header = some (id.stampHeader p.sizedHeader))
    (htags : List.Forall₂ Tag.SameStored p.writtenTags q.writtenTags) :
    q.serialize = p.serialize := by
  have hcontainer := container_congr htags
  have hlength : tableEnd q.writtenTags.length + (blocks q.writtenTags).length =
      tableEnd p.writtenTags.length + (blocks p.writtenTags).length := by
    rw [← length_container p.sizedHeader, hcontainer, length_container]
  have hsized : q.sizedHeader = p.sizedHeader := by
    rw [sizedHeader, writtenHeader_of_settled (settled_sizedHeader p) hheader, hlength]
    exact HeaderBlock.write_eq_self rfl (HeaderBlock.holdsAt_write .size rfl _ _)
  rw [serialize_eq, serialize_eq, hsized, hcontainer]

/-- The written form is that of the serialized profile. -/
theorem toBytes_congr {p q : Profile} (hp : p.unchangedBytes? = none)
    (hq : q.unchangedBytes? = none) (h : q.serialize = p.serialize) : q.toBytes = p.toBytes := by
  simp only [toBytes, hp, hq, h]

/-- Setting a field to the value that it has only marks a profile that was just read as
changed. -/
theorem setField_field_fresh {data : Bytes} (h : headerSize ≤ data.length) (f : HeaderField) :
    (fresh data h).setField f ((fresh data h).field f) =
      { fresh data h with modified := true } := by
  have hheader : ((leadingHeader data h).write f (f.read (leadingHeader data h).val)) =
      leadingHeader data h := HeaderBlock.write_read f _
  simp only [setField, field, fresh, Option.getD_some, hheader]
  rfl

/-- What was read from the written form of a changed profile and is marked as changed is written
as the same bytes. -/
theorem toBytes_again {source : Option Bytes} {p : Profile} (hp : Consistent source p)
    (hmodified : p.modified = true) (hlength : p.toBytes.length < UInt32.size)
    (hfit : headerSize ≤ p.toBytes.length) :
    ({ fresh p.toBytes hfit with modified := true } : Profile).toBytes = p.toBytes := by
  have hbytes := toBytes_of_rewritten (unchangedBytes?_of_modified hmodified)
  have htags : List.Forall₂ Tag.SameStored p.writtenTags (fresh p.toBytes hfit).tags := by
    rw [tags_fresh_container hbytes hfit hlength]
    exact (forall₂_placed _ _ _ hp.writtenTags_built).imp fun t u hsame => hsame.1
  -- all of them have bytes, so all of them are written
  have hwritten : (fresh p.toBytes hfit).writtenTags = (fresh p.toBytes hfit).tags := by
    apply List.filter_eq_self.mpr
    intro tag htag
    simp [block_ne_nil_of_alike htags (fun t ht => (hp.writtenTags_built t ht).2) tag htag]
  rw [← hwritten] at htags
  exact toBytes_congr (unchangedBytes?_of_modified hmodified) rfl
    (serialize_again (congrArg some (leadingHeader_container hbytes hfit)) htags)

/-- The written form of a changed reachable profile has the canonical shape: its length at the
start, the number of written tags behind the header, and the block of each tag, filled up with
zeros, behind the table and the blocks of the tags before it, up to the end. Reading it and
setting any field to the value that it has marks the profile as changed and leaves its header
and tags, and what is then written anew is the same. -/
theorem canonical {source : Option Bytes} {p : Profile} (h : Reachable source p)
    (hmodified : p.modified = true) (hlength : p.toBytes.length < UInt32.size) :
    (Bytes.wordAt p.toBytes 0).toNat = p.toBytes.length ∧
    (Bytes.wordAt p.toBytes headerSize).toNat = p.writtenTags.length ∧
    (∀ i tag, p.writtenTags[i]? = some tag →
      Bytes.wordAt p.toBytes (minProfileSize + i * 12) = tag.signature ∧
      (Bytes.wordAt p.toBytes (minProfileSize + i * 12 + 4)).toNat =
        blockStart p.writtenTags i ∧
      (Bytes.wordAt p.toBytes (minProfileSize + i * 12 + 8)).toNat = tag.block.length ∧
      HoldsAt p.toBytes (blockStart p.writtenTags i) (Bytes.pad4 tag.block) ∧
      blockStart p.writtenTags i % 4 = 0 ∧
      tableEnd p.writtenTags.length ≤ blockStart p.writtenTags i ∧
      blockStart p.writtenTags (i + 1) =
        blockStart p.writtenTags i + Bytes.ceil4 tag.block.length ∧
      ∀ j, i < j → blockStart p.writtenTags i + tag.block.length ≤ blockStart p.writtenTags j) ∧
    blockStart p.writtenTags p.writtenTags.length = p.toBytes.length ∧
    ∃ q, ofBytes p.toBytes = .ok q ∧ ∀ f,
      (q.setField f (q.field f)).modified = true ∧
      (q.setField f (q.field f)).header = q.header ∧
      (q.setField f (q.field f)).tags = q.tags ∧
      (q.setField f (q.field f)).toBytes = p.toBytes := by
  have hp := h.consistent
  have hrewritten := unchangedBytes?_of_modified hmodified
  have hbytes := toBytes_of_rewritten hrewritten
  have haccepted := hp.accepted_toBytes hlength
  have hend : blockStart p.writtenTags p.writtenTags.length = p.toBytes.length := by
    rw [hbytes, blockStart_length]
  refine ⟨?_, ?_, ?_, hend, ?_⟩
  -- the declared length
  · have hsize : HoldsAt (p.computedId.stampHeader p.sizedHeader).val 0 _ :=
      (HeaderBlock.holdsAt_write .size rfl p.writtenHeader _).patch (.inl (by
        rw [Bytes.length_ofWord32]
        decide))
    have hdeclared := holdsAt_container_header _ p.writtenTags hsize
    rw [← hbytes] at hdeclared
    rw [hdeclared.wordAt_word, ← length_container (p.computedId.stampHeader p.sizedHeader),
      ← hbytes, UInt32.toNat_ofNat_of_lt' hlength]
  -- the number of tags
  · rw [← declaredTagCount]
    rw [hbytes] at hlength ⊢
    exact declaredTagCount_container _ _ hlength
  -- the entries and blocks
  · intro i tag htag
    have hentry := holdsAt_entry (p.computedId.stampHeader p.sizedHeader) htag
    have hblock := holdsAt_block (p.computedId.stampHeader p.sizedHeader) htag
    rw [← hbytes] at hentry hblock
    have hfit := hblock.of_pad4.le_length
    have hplace := hentry.left.right
    have hsize := hentry.right
    rw [Bytes.length_ofWord32] at hplace
    rw [List.length_append, Bytes.length_ofWord32, Bytes.length_ofSize] at hsize
    refine ⟨hentry.left.left.wordAt_word, ?_, ?_, hblock, blockStart_mod _ _, ?_,
      blockStart_succ htag, ?_⟩
    · rw [hplace.wordAt, UInt32.toNat_ofNat_of_lt' (by omega)]
    · rw [hsize.wordAt, UInt32.toNat_ofNat_of_lt' (by omega)]
    · exact Nat.le_add_right ..
    · intro j hij
      calc blockStart p.writtenTags i + tag.block.length
          ≤ blockStart p.writtenTags i + Bytes.ceil4 tag.block.length :=
            Nat.add_le_add_left (Bytes.le_ceil4 _) _
        _ = blockStart p.writtenTags (i + 1) := (blockStart_succ htag).symm
        _ ≤ blockStart p.writtenTags j := blockStart_mono _ hij
  -- writing again
  · refine ⟨_, ofBytes_of_accepted haccepted, ?_⟩
    intro f
    rw [setField_field_fresh]
    refine ⟨rfl, rfl, rfl, ?_⟩
    exact toBytes_again hp hmodified hlength haccepted.headerSize_le

/-- A pattern with two texts of thirteen and nine bytes. -/
def unevenTexts : Profile :=
  (((ofField .colorSpace 0x52474220).serve
    (.addTag (Tag.ofBlock Signature.copyright (PlainText.encode "free")) none)).2.serve
    (.addTag (Tag.ofBlock Signature.description (PlainText.encode "")) none)).2

theorem canonical_unevenTexts :
    Reachable none unevenTexts ∧ unevenTexts.modified = true ∧
      unevenTexts.toBytes.length < UInt32.size ∧
      HoldsAt unevenTexts.toBytes 172 (Bytes.pad4 (PlainText.encode "")) ∧
      ∃ q, ofBytes unevenTexts.toBytes = .ok q ∧
        (q.setField .flags (q.field .flags)).toBytes = unevenTexts.toBytes := by
  have hreachable : Reachable none unevenTexts :=
    .serve _ (.inl (.read (.ofBlock ..))) (.serve _ (.inl (.read (.ofBlock ..))) (.ofField ..))
  have hlength : unevenTexts.toBytes.length < UInt32.size := by
    rw [length_toBytes_of_rewritten rfl]
    decide +kernel
  obtain ⟨-, -, hplaces, -, q, hq, hagain⟩ := canonical hreachable rfl hlength
  have htag : unevenTexts.writtenTags[1]? =
      some (Tag.ofBlock Signature.description (PlainText.encode "")) := by decide +kernel
  have hstart : blockStart unevenTexts.writtenTags 1 = 172 := by decide +kernel
  obtain ⟨-, -, -, hblock, -⟩ := hplaces 1 _ htag
  rw [hstart, Tag.ofBlock_block] at hblock
  exact ⟨hreachable, rfl, hlength, hblock, q, hq, (hagain .flags).2.2.2⟩

end IccProfile.Profile
