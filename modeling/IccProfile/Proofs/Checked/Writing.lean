import IccProfile.Proofs.Checked.Encoding
import IccProfile.Proofs.Checked.Tags
import IccProfile.Proofs.Profile.Container

/-!
# Writing with checks

A profile is written over zeros of the final size, which is computed first: the header with
its fields, then for each tag a row of the tag table and the block in its place. The walk
over the tags carries as invariant the byte string as written rows, zeros for the rows to
come, written blocks and zeros for the blocks to come (`writeTags_eq`). The sizes that are
summed up leave room in a word because memory holds the tags.

The written form, the identity and its repair use the tag list only when the bytes are not
the written form.
-/

set_option autoImplicit false

namespace IccProfile.Checked

/-! ## The tag table and the blocks -/

/-- Writes the rows and blocks of tags from an index and an offset on. -/
def writeTags (data : Bytes) : (index offset : Nat) → List Tag → Checked Bytes
  | _, _, [] => return data
  | index, offset, tag :: rest => do
    let entry ← add minProfileSize (← mul index 12)
    let data ← writeWord data entry tag.signature
    let data ← writeWord data (← add entry 4) (UInt32.ofNat offset)
    let data ← writeWord data (← add entry 8) (UInt32.ofNat tag.block.length)
    let data ← copy data offset (← add offset tag.block.length) tag.block
    let next ← add offset (← ceil4 tag.block.length)
    writeTags data (index + 1) next rest

/-- The bytes of the blocks of tags, each padded to a multiple of four. -/
def paddedSize (tags : List Tag) : Nat := (tags.map fun tag => Bytes.ceil4 tag.block.length).sum

theorem writeTags_eq (before done : Bytes) (index offset : Nat) (tags : List Tag)
    (hbefore : before.length = 132 + index * 12)
    (hoffset : offset = before.length + tags.length * 12 + done.length)
    (hheld : offset + paddedSize tags < 2 ^ 63) :
    writeTags (before ++ (zeros (tags.length * 12) ++ (done ++ zeros (paddedSize tags)))) index
        offset tags =
      .ok (before ++ (Profile.tableEntries offset tags
        ++ (done ++ Profile.blocks tags))) := by
  induction tags generalizing before done index offset with
  | nil => simp [writeTags, zeros, paddedSize, Profile.tableEntries, Profile.blocks]
  | cons tag rest ih =>
      have hle := Bytes.le_ceil4 tag.block.length
      have hpadded :
          paddedSize (tag :: rest) = Bytes.ceil4 tag.block.length + paddedSize rest := rfl
      rw [List.length_cons] at hoffset ⊢
      rw [hpadded] at hheld ⊢
      rw [writeTags, minProfileSize, mul_eq (by omega), ok_bind, add_eq (by omega), ok_bind,
        writeWord_zeros (by omega) (by omega) (by omega), ok_bind, add_eq (by omega), ok_bind,
        writeWord_zeros (by simp; omega) (by omega) (by simp; omega), ok_bind,
        add_eq (by omega), ok_bind,
        writeWord_zeros (by simp; omega) (by omega) (by simp; omega), ok_bind,
        add_eq (by omega), ok_bind, ofWord32_ofNat, ofWord32_ofNat]
      have hrow : (rest.length + 1) * 12 - 4 - 4 - 4 = rest.length * 12 := by omega
      -- the place of the block is behind the row, the rows to come and the blocks before it
      let row := Bytes.ofWord32 tag.signature ++ (Bytes.ofSize offset
        ++ Bytes.ofSize tag.block.length)
      have hregroup : before ++ Bytes.ofWord32 tag.signature ++ Bytes.ofSize offset
          ++ Bytes.ofSize tag.block.length ++ (zeros ((rest.length + 1) * 12 - 4 - 4 - 4)
            ++ (done ++ zeros (Bytes.ceil4 tag.block.length + paddedSize rest))) =
          (before ++ (row ++ (zeros (rest.length * 12) ++ done)))
            ++ (zeros (Bytes.ceil4 tag.block.length + paddedSize rest) ++ []) := by
        simp only [row, hrow, List.append_assoc, List.append_nil]
      have hpad : zeros (Bytes.ceil4 tag.block.length + paddedSize rest - tag.block.length) =
          zeros (Bytes.ceil4 tag.block.length - tag.block.length) ++ zeros (paddedSize rest) := by
        rw [← zeros_add]
        congr 1
        omega
      rw [hregroup, copy_zeros (by simp [row]; omega) rfl (by omega), ok_bind, ceil4_eq (by omega),
        ok_bind, add_eq (by omega), ok_bind, hpad]
      have hnext := ih (before ++ row) (done ++ Bytes.pad4 tag.block) (index + 1)
        (offset + Bytes.ceil4 tag.block.length)
        (by simp [row]; omega) (by simp [row]; omega) (by omega)
      simpa only [row, List.append_assoc, List.append_nil, Bytes.pad4, zeros, Profile.tableEntries,
        Profile.blocks, List.flatMap_cons] using hnext

/-! ## The header -/

/-- Writes the header of a profile over zeros at the start of a byte string. -/
def writeHeader (p : Profile) (data : Bytes) : Checked Bytes := do
  let data ← (match p.header with
    | some header => do copy data 0 headerSize header.val
    | none => return data)
  let data ← clear data idOffset (idOffset + 16)
  let data ← writeField .magic data Signature.magic
  let version ← readField .version data
  let data ← (if version = 0 then writeField .version data Version.v43.word else return data)
  writeField .platform data Signature.platform

section Header

variable {rest : Bytes} (h : headerSize + rest.length < 2 ^ 63) (header : HeaderBlock)
include h

theorem length_lt : (header.val ++ rest).length < 2 ^ 63 := by
  rw [List.length_append, header.property]
  exact h

theorem writeField_append (f : HeaderField) (value : UInt32) :
    writeField f (header.val ++ rest) value = .ok ((header.write f value).val ++ rest) := by
  rw [writeField_eq f (by rw [List.length_append, header.property]; omega) (length_lt h header),
    HeaderBlock.write_append]

theorem readField_append (f : HeaderField) :
    readField f (header.val ++ rest) = .ok (f.read header.val) := by
  have hend : f.offset + f.width ≤ header.val.length := by
    rw [header.property]
    exact f.end_le_headerSize
  rw [readField_eq f (length_lt h header), HeaderField.read, HeaderField.read, Bytes.slice?,
    Bytes.slice?, if_pos hend, if_pos (by rw [List.length_append]; omega),
    List.drop_append_of_le_length (by omega),
    List.take_append_of_le_length (by rw [List.length_drop]; omega)]

omit h in
/-- The ID of a header is cleared. -/
theorem clear_append :
    clear (header.val ++ rest) idOffset (idOffset + 16) =
      .ok ((ProfileId.zero.stampHeader header).val ++ rest) := by
  have hfit : idOffset + 16 ≤ (header.val ++ rest).length := by
    rw [List.length_append, header.property, headerSize, idOffset]
    omega
  rw [clear_eq (Nat.le_add_right ..) hfit, ← ProfileId.stamp_append]
  rfl

end Header

theorem writeHeader_eq (p : Profile) {n : Nat} (h : headerSize + n < 2 ^ 63) :
    writeHeader p (zeros (headerSize + n)) = .ok (p.writtenHeader.val ++ zeros n) := by
  have hlength : headerSize + (zeros n).length < 2 ^ 63 := by
    rw [length_zeros]
    exact h
  -- the header that is copied, zeros when there is none
  have hcopied : (match p.header with
      | some header => copy (zeros (headerSize + n)) 0 headerSize header.val
      | none => (pure (zeros (headerSize + n)) : Checked Bytes)) =
        .ok ((p.header.getD HeaderBlock.zero).val ++ zeros n) := by
    cases p.header with
    | none => exact congrArg Except.ok (zeros_add ..)
    | some header =>
        have hcopy : copy ([] ++ (zeros (headerSize + n) ++ [])) 0 headerSize header.val =
            .ok ([] ++ header.val ++ (zeros (headerSize + n - header.val.length) ++ [])) :=
          copy_zeros rfl (by rw [header.property]; rfl)
            (by rw [header.property]; exact Nat.le_add_right ..)
        rw [header.property, Nat.add_sub_cancel_left] at hcopy
        simpa using hcopy
  rw [writeHeader, hcopied, ok_bind, clear_append, ok_bind, writeField_append hlength, ok_bind,
    readField_append hlength, ok_bind, Profile.writtenHeader]
  split
  · rw [writeField_append hlength, ok_bind, writeField_append hlength]
  · rw [pure_eq, ok_bind, writeField_append hlength]

/-! ## The container -/

/-- The header of a profile, the tag table and the blocks of tags. -/
def writeContainer (p : Profile) (tags : List Tag) : Checked Bytes := do
  let tableEnd ← add minProfileSize (← mul tags.length 12)
  let sizes ← tags.mapM fun tag => ceil4 tag.block.length
  let size ← add tableEnd (← sum sizes)
  let data ← hold (zeros size)
  let data ← writeHeader p data
  let data ← writeWord data headerSize (UInt32.ofNat tags.length)
  let data ← writeTags data 0 tableEnd tags
  writeField .size data (UInt32.ofNat data.length)

/-- Header, tag table and blocks, without an ID. -/
def serialize (p : Profile) : Checked Bytes := do
  let tags ← visible (← allTags p)
  writeContainer p (tags.filter fun tag => !tag.block.isEmpty)

theorem paddedSize_le (tags : List Tag) :
    paddedSize tags ≤ (tags.map (·.block.length)).sum + 3 * tags.length := by
  induction tags with
  | nil => decide
  | cons tag rest ih =>
      rw [paddedSize] at ih ⊢
      simp only [List.map_cons, List.sum_cons, List.length_cons, Bytes.ceil4] at ih ⊢
      omega

theorem mapM_ceil4 {tags : List Tag} (h : Fits 88 (tags.map (·.block.length))) :
    tags.mapM (fun tag => ceil4 tag.block.length) =
      .ok (tags.map fun tag => Bytes.ceil4 tag.block.length) := by
  apply mapM_eq
  intro tag htag
  have hlength := h.1 _ (List.mem_map_of_mem htag)
  exact ceil4_eq (by omega)

/-- The number of tags, their rows and their blocks written behind a header fill a container. -/
theorem writeBody_eq (header : HeaderBlock) (tags : List Tag)
    (h : 132 + tags.length * 12 + paddedSize tags < 2 ^ 63) :
    (do
      let data ← writeWord (header.val ++ zeros (4 + (tags.length * 12 + paddedSize tags)))
        headerSize (UInt32.ofNat tags.length)
      writeTags data 0 (132 + tags.length * 12) tags) = .ok (Profile.container header tags) := by
  have hlength : header.val.length = 128 := header.property
  have hbehind : 4 + (tags.length * 12 + paddedSize tags) - 4 =
      tags.length * 12 + paddedSize tags := by
    omega
  have hcount : writeWord (header.val ++ (zeros (4 + (tags.length * 12 + paddedSize tags)) ++ []))
        headerSize (UInt32.ofNat tags.length) =
      .ok (header.val ++ Bytes.ofWord32 (UInt32.ofNat tags.length)
        ++ (zeros (4 + (tags.length * 12 + paddedSize tags) - 4) ++ [])) :=
    writeWord_zeros hlength.symm (by omega) (by omega)
  have hrows := writeTags_eq (header.val ++ Bytes.ofSize tags.length) [] 0
    (132 + tags.length * 12) tags (by simp; omega) (by simp; omega) (by omega)
  rw [hbehind, ofWord32_ofNat, List.append_nil, List.append_nil,
    zeros_add (tags.length * 12)] at hcount
  rw [List.nil_append, List.nil_append] at hrows
  rw [hcount, ok_bind, hrows, List.append_assoc]
  rfl

/-- Memory holds the tags, so a word holds the sizes that are summed up. -/
theorem writeContainer_gives (p : Profile) {tags : List Tag}
    (h : Fits 88 (tags.map (·.block.length))) :
    Gives (writeContainer p tags)
      (Profile.container (p.writtenHeader.write .size
        (UInt32.ofNat (Profile.tableEnd tags.length + (Profile.blocks tags).length))) tags) := by
  have hroom := h.lt 15 132 (by decide) (by decide)
  have hpadded := paddedSize_le tags
  rw [List.length_map] at hroom
  rw [writeContainer, minProfileSize, mul_eq (by omega), ok_bind, add_eq (by omega), ok_bind,
    mapM_ceil4 h, ok_bind, sum_eq (by rw [← paddedSize]; omega), ok_bind, ← paddedSize,
    add_eq (by omega), ok_bind]
  apply gives_hold
  intro hsize
  rw [length_zeros] at hsize
  have hsplit : 132 + tags.length * 12 + paddedSize tags =
      headerSize + (4 + (tags.length * 12 + paddedSize tags)) := by
    rw [headerSize]
    omega
  have hblocks : (Profile.blocks tags).length = paddedSize tags := Profile.length_blocks tags
  rw [hsplit, writeHeader_eq p (by rw [← hsplit]; exact hsize), ok_bind, ← bind_assoc,
    writeBody_eq p.writtenHeader tags hsize, ok_bind, Profile.length_container, Profile.container,
    writeField_append]
  · exact gives_ok _
  · simp only [List.length_append, Bytes.length_ofSize, Profile.length_tableEntries, hblocks,
      headerSize]
    omega

theorem withoutHeader_sublist (tags : List Tag) : (Profile.withoutHeader tags).Sublist tags := by
  cases tags with
  | nil => exact List.Sublist.refl _
  | cons first rest =>
      rw [Profile.withoutHeader]
      split
      · exact List.sublist_cons_self ..
      · exact List.Sublist.refl _

theorem serialize_gives (p : Profile) : Gives (serialize p) p.serialize := by
  rw [serialize]
  apply gives_allTags
  intro hfits
  have hwritten : (p.writtenTags.map (·.block.length)).Sublist
      (p.allTags.map (·.block.length)) :=
    (List.filter_sublist.trans (withoutHeader_sublist p.allTags)).map _
  rw [visible_eq, ok_bind, Profile.serialize_eq]
  exact writeContainer_gives p (hfits.sublist hwritten)

/-! ## The written form and the identity -/

/-- The profile with its tag list read. -/
def materialize (p : Profile) : Checked Profile := do
  return { p with tagList := some (← allTags p) }

/-- The written form, and the profile afterwards. -/
def toBytes (p : Profile) : Checked (Bytes × Profile) :=
  match p.unchangedBytes? with
  | some data => return (← hold data, p)
  | none => do
    let p ← materialize p
    let data ← serialize p
    return (← stamp (← contentId data) data, p)

/-- The identity computed from the content, and the profile afterwards. -/
def computedId (p : Profile) : Checked (ProfileId × Profile) :=
  match p.unchangedBytes? with
  | some data => return (← contentId (← hold data), p)
  | none => do
    let p ← materialize p
    return (← contentId (← serialize p), p)

/-- The ID in the header. -/
def storedId? (p : Profile) : Checked (Option ProfileId) :=
  match p.header with
  | some header => embeddedId? header.val
  | none => return none

/-- Whether the header holds an ID. -/
def hasEmbeddedId (p : Profile) : Checked Bool :=
  match p.header with
  | some header => hasId header
  | none => return false

/-- The identity as it is found without looking at the remembered one. -/
def freshId (p : Profile) : Checked (ProfileId × Profile) := do
  match ← storedId? p with
  | none => computedId p
  | some id => if p.modified then computedId p else return (id, p)

/-- The identity, which is then remembered, and the profile afterwards. -/
def identity (p : Profile) : Checked (ProfileId × Profile) :=
  match p.knownId with
  | some id => return (id, p)
  | none => do
    let (id, p) ← freshId p
    return (id, { p with knownId := some id })

/-- The stored ID compared with the computed one, and the profile afterwards. -/
def checkId (p : Profile) : Checked (IdCheck × Profile) := do
  match ← storedId? p with
  | none => return (.missing, p)
  | some stored =>
    let (computed, p) ← computedId p
    return (if stored = computed then .valid else .mismatch stored computed, p)

/-- Stores the computed identity in the header and in the raw bytes. -/
def repairId (p : Profile) : Checked (ProfileId × Profile) := do
  let (id, p) ← computedId p
  let header ← (match p.header with
    | some header => return some (← block (← stamp id header.val))
    | none => return none)
  let raw ← (match p.raw with
    | some data => return some (← stamp id (← hold data))
    | none => return none)
  let p ← syncHeaderTag { p with header := header, raw := raw }
  return (id, { p with knownId := some id })

theorem materialize_gives (p : Profile) : Gives (materialize p) p.materialized := by
  rw [materialize]
  apply gives_allTags
  intro _
  exact gives_ok _

/-- A tag list that is read gives the same written form. -/
theorem serialize_materialized (p : Profile) : p.materialized.serialize = p.serialize := rfl

theorem toBytes_gives (p : Profile) : Gives (toBytes p) (p.toBytes, p.afterWriting) := by
  unfold toBytes Profile.toBytes Profile.afterWriting
  cases p.unchangedBytes? with
  | some data =>
      apply gives_hold
      intro _
      exact gives_ok _
  | none =>
      apply (materialize_gives p).bind
      apply (serialize_gives p.materialized).bind
      rw [contentId_eq, ok_bind, stamp_eq, ok_bind, serialize_materialized]
      exact gives_ok _

theorem computedId_gives (p : Profile) : Gives (computedId p) (p.computedId, p.afterWriting) := by
  unfold computedId Profile.computedId Profile.afterWriting
  cases p.unchangedBytes? with
  | some data =>
      apply gives_hold
      intro _
      rw [contentId_eq, ok_bind]
      exact gives_ok _
  | none =>
      apply (materialize_gives p).bind
      apply (serialize_gives p.materialized).bind
      rw [contentId_eq, ok_bind, serialize_materialized]
      exact gives_ok _

theorem storedId?_eq (p : Profile) : storedId? p = .ok p.embeddedId? := by
  unfold storedId? Profile.embeddedId?
  cases p.header with
  | none => rfl
  | some header => exact embeddedId?_eq header.val

theorem hasEmbeddedId_eq (p : Profile) : hasEmbeddedId p = .ok p.hasEmbeddedId := by
  unfold hasEmbeddedId Profile.hasEmbeddedId Profile.embeddedId?
  cases p.header with
  | none => rfl
  | some header => exact hasId_eq header

/-- The ID of the header is given without a look at the tags unless something was changed. -/
theorem freshId_gives (p : Profile) :
    Gives (freshId p)
      (p.freshId, if p.hasEmbeddedId && !p.modified then p else p.afterWriting) := by
  unfold freshId Profile.freshId Profile.hasEmbeddedId
  rw [storedId?_eq, ok_bind]
  cases p.embeddedId? with
  | none => exact computedId_gives p
  | some id =>
      cases p.modified with
      | false => exact gives_ok _
      | true => exact computedId_gives p

theorem identity_gives (p : Profile) : Gives (identity p) (p.id, p.afterId) := by
  unfold identity Profile.id Profile.afterId
  cases p.knownId with
  | some id => exact gives_ok _
  | none => exact (freshId_gives p).bind (gives_ok _)

theorem checkId_gives (p : Profile) : Gives (checkId p) (p.checkId, p.afterCheck) := by
  unfold checkId Profile.checkId Profile.afterCheck
  rw [storedId?_eq, ok_bind, Profile.hasEmbeddedId]
  cases p.embeddedId? with
  | none => exact gives_ok _
  | some stored => exact (computedId_gives p).bind (gives_ok _)

theorem repairId_gives (p : Profile) : Gives (repairId p) (p.computedId, p.repairId) := by
  apply (computedId_gives p).bind
  rw [Profile.repairId]
  generalize p.computedId = id
  generalize p.afterWriting = q
  have hheader : (match q.header with
      | some header => do return some (← block (← stamp id header.val))
      | none => (pure none : Checked (Option HeaderBlock))) =
        .ok (q.header.map id.stampHeader) := by
    cases q.header with
    | none => rfl
    | some header =>
        have hlength : (id.stamp header.val).length = headerSize := by
          rw [ProfileId.length_stamp, header.property]
        simp only [stamp_eq, ok_bind, block_eq hlength]
        rfl
  have hraw : Gives (match q.raw with
      | some data => do return some (← stamp id (← hold data))
      | none => (pure none : Checked (Option Bytes))) (q.raw.map id.stamp) := by
    cases q.raw with
    | none => exact gives_ok _
    | some data =>
        apply gives_hold
        intro _
        rw [stamp_eq, ok_bind]
        exact gives_ok _
  simp only [hheader, ok_bind]
  apply hraw.bind
  rw [syncHeaderTag_eq, ok_bind]
  exact gives_ok _

end IccProfile.Checked
