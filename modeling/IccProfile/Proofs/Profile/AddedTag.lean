import IccProfile.Proofs.Profile.Canonical
import IccProfile.Proofs.Profile.TagOrder
import Mathlib.Data.List.Find

/-!
# A tag that was added

Adding a tag puts it in the place of those of its signature, so it is the one that is found
under its signature (`Consistent.tag?_withTag`). The tags of other signatures stay as they are
(`Consistent.otherTags_withTag`). In the profile that is read from the written
form the tag of that signature holds what the block of the added one decodes to
(`Consistent.tag?_reloaded`), which for a tag of data is the image of the data in storage
(`Consistent.stored_reloaded`).
-/

set_option autoImplicit false

namespace IccProfile

/-- A tag of data is not corrupted and holds the data. -/
theorem Tag.content_of_ofData? {signature : Signature} {d : TagData} {tag : Tag}
    (h : ofData? signature d = some tag) : tag.status = .ok ∧ tag.data = d := by
  obtain ⟨block, -, rfl⟩ := Option.map_eq_some_iff.mp h
  exact ⟨rfl, rfl⟩

/-- The block of data that fits its fields is read as the image of the data in storage. -/
theorem Tag.ofBlock_written {d : TagData} {b : Bytes} (hb : d.encode? = some b)
    (hlength : b.length < UInt32.size) (hfits : d.Fits) (signature : Signature) :
    (ofBlock signature b).status = .ok ∧ (ofBlock signature b).data = d.stored := by
  obtain ⟨used, hdecode, -⟩ := TagData.decode_written hb hlength hfits
  simp only [ofBlock, hdecode, and_self]

namespace Profile

variable {source : Option Bytes} {p : Profile} {tag : Tag}

/-- The profile with a tag in the place of those of its signature. -/
def withTag (p : Profile) (tag : Tag) : Profile := p.setTags (insertTag p.allTags tag none)

theorem addTag_eq (p : Profile) (h : tag.isHeader = false) :
    p.addTag tag none = .ok (p.withTag tag) :=
  (addTag_ok_iff p).mpr ⟨h, rfl⟩

/-- A tag without a position stands behind those of other signatures. -/
theorem insertSeen_none (seen : List Tag) (tag : Tag) :
    insertSeen seen tag none = seen.filter (·.signature ≠ tag.signature) ++ [tag] := by
  rw [insertSeen, Option.getD_none, Nat.min_self, List.insertIdx_length_self]

theorem Consistent.tags_withTag (h : Consistent source p) (hheader : tag.isHeader = false) :
    (p.withTag tag).tags = insertSeen p.tags tag none :=
  (h.shows.insertTag hheader none).withoutHeader_eq

/-- The added tag is the only one of its signature. -/
theorem Consistent.filter_tags_withTag (h : Consistent source p) (hheader : tag.isHeader = false) :
    (p.withTag tag).tags.filter (·.signature = tag.signature) = [tag] := by
  rw [h.tags_withTag hheader]
  exact filter_insertSeen p.tags tag none

/-- The added tag is found under its signature. -/
theorem Consistent.tag?_withTag (h : Consistent source p) (hheader : tag.isHeader = false) :
    (p.withTag tag).tag? tag.signature = some tag := by
  rw [tag?, ← List.head?_filter, h.filter_tags_withTag hheader, List.head?_cons]

/-- The tags of other signatures stay as they are, in their order. -/
theorem Consistent.otherTags_withTag (h : Consistent source p) (hheader : tag.isHeader = false) :
    (p.withTag tag).tags.filter (·.signature ≠ tag.signature) =
      p.tags.filter (·.signature ≠ tag.signature) := by
  have hself : [tag].filter (·.signature ≠ tag.signature) = [] := by simp
  rw [h.tags_withTag hheader, insertSeen_none, List.filter_append, hself, List.append_nil,
    List.filter_filter]
  simp only [Bool.and_self]

/-- Another signature is found as the same tag as before. -/
theorem Consistent.tag?_withTag_of_ne (h : Consistent source p) (hheader : tag.isHeader = false)
    {signature : Signature} (hne : signature ≠ tag.signature) :
    (p.withTag tag).tag? signature = p.tag? signature := by
  -- a tag that is looked for is among those of other signatures
  have hothers : ∀ q : Profile,
      q.tag? signature =
        (q.tags.filter (·.signature ≠ tag.signature)).find? (·.signature = signature) := by
    intro q
    rw [tag?, List.find?_filter]
    refine List.find?_congr fun t _ => ?_
    by_cases hsignature : t.signature = signature
    · simp [hsignature, hne]
    · simp [hsignature]
  rw [hothers, hothers p, h.otherTags_withTag hheader]

/-- The texts of other signatures stay as they are. -/
theorem Consistent.text_withTag_of_ne (h : Consistent source p) (hheader : tag.isHeader = false)
    {signature : Signature} (hne : signature ≠ tag.signature) :
    (p.withTag tag).text signature = p.text signature := by
  rw [text, text, textFor, textFor, h.tag?_withTag_of_ne hheader hne]

/-- A block in a container is not longer than the container. -/
theorem length_block_le (header : HeaderBlock) {tags : List Tag} (h : tag ∈ tags) :
    tag.block.length ≤ (container header tags).length := by
  obtain ⟨i, hi⟩ := List.getElem?_of_mem h
  have hend := (holdsAt_block header hi).of_pad4.le_length
  omega

/-- The written form carries the added tag with what its block decodes to. -/
theorem Consistent.tag?_reloaded (h : Consistent source p) (hheader : tag.isHeader = false)
    (hblock : tag.block ≠ []) (hlength : (p.withTag tag).toBytes.length < UInt32.size)
    (hfit : headerSize ≤ (p.withTag tag).toBytes.length) :
    tag.block.length < UInt32.size ∧
      ∃ u, (fresh (p.withTag tag).toBytes hfit).tag? tag.signature = some u ∧
        u.status = (Tag.ofBlock tag.signature tag.block).status ∧
        u.data = (Tag.ofBlock tag.signature tag.block).data := by
  have hbytes : (p.withTag tag).toBytes = container _ _ :=
    toBytes_of_rewritten (unchangedBytes?_of_modified rfl)
  -- the added tag is written, since it has bytes
  have hfilter : (p.withTag tag).writtenTags.filter (·.signature = tag.signature) = [tag] := by
    rw [writtenTags, List.filter_comm, h.filter_tags_withTag hheader]
    simp [hblock]
  have hfind : (p.withTag tag).writtenTags.find? (·.signature = tag.signature) = some tag := by
    rw [← List.head?_filter, hfilter, List.head?_cons]
  constructor
  · apply Nat.lt_of_le_of_lt _ hlength
    rw [hbytes]
    exact length_block_le _ (List.mem_of_find?_eq_some hfind)
  · rw [tag?, tags_fresh_container hbytes hfit hlength]
    exact find?_placed _ hfind _

/-- The written form carries a tag of data with the image of the data in storage. -/
theorem Consistent.stored_reloaded (h : Consistent source p) {signature : Signature} {d : TagData}
    (hdata : Tag.ofData? signature d = some tag) (hheader : signature ≠ Signature.header)
    (hfits : d.Fits) (hlength : (p.withTag tag).toBytes.length < UInt32.size)
    (hfit : headerSize ≤ (p.withTag tag).toBytes.length) :
    ∃ u, (fresh (p.withTag tag).toBytes hfit).tag? signature = some u ∧ u.status = .ok ∧
      u.data = d.stored := by
  obtain ⟨hencode, -, hsignature⟩ := Tag.ofData?_eq_some hdata
  subst hsignature
  have hbuilt : tag.Built := .ofData hdata
  obtain ⟨hblock, u, hfound, hstatus, hheld⟩ := h.tag?_reloaded (decide_eq_false hheader)
    (hbuilt.block_ne_nil (Tag.content_of_ofData? hdata).1) hlength hfit
  obtain ⟨hread, hstored⟩ := Tag.ofBlock_written hencode hblock hfits tag.signature
  exact ⟨u, hfound, hstatus.trans hread, hheld.trans hstored⟩

end Profile

end IccProfile
