import IccProfile.Proofs.Profile.Consistent

/-!
# Reading what was written

The written form of a reachable profile is accepted, as long as its length is a word
(`Consistent.accepted_toBytes`). `reload` says what is read from the written form of a
changed profile: its tags with bytes, in order and alike, and its header but for the
bytes that writing sets.
-/

set_option autoImplicit false

namespace IccProfile.Profile

variable {source : Option Bytes} {p : Profile}

/-- The written form of a consistent profile is accepted. -/
theorem Consistent.accepted_toBytes (h : Consistent source p)
    (hlength : p.toBytes.length < UInt32.size) : Accepted p.toBytes := by
  cases hunchanged : p.unchangedBytes? with
  | none => exact accepted_of_rewritten hunchanged hlength
  | some data =>
      rw [toBytes_of_unchanged hunchanged]
      exact h.raw_accepted (unchangedBytes?_eq_some.mp hunchanged).2

/-- The tags that are written can be made and have bytes. -/
theorem Consistent.writtenTags_built (h : Consistent source p) :
    ∀ tag ∈ p.writtenTags, tag.Built ∧ tag.block ≠ [] := by
  intro tag htag
  obtain ⟨hmem, hblock⟩ := List.mem_filter.mp htag
  refine ⟨h.built tag hmem, ?_⟩
  intro hnil
  rw [hnil] at hblock
  cases hblock

/-- A changed profile is written anew. -/
theorem unchangedBytes?_of_modified (h : p.modified = true) : p.unchangedBytes? = none := by
  rw [unchangedBytes?, h]
  rfl

/-- The length of the written form does not depend on the identity that is stored in it. -/
theorem length_toBytes_of_rewritten (h : p.unchangedBytes? = none) :
    p.toBytes.length = p.serialize.length := by
  rw [toBytes_of_rewritten h, serialize_eq, length_container, length_container]

/-- Reading the written form of a changed profile succeeds. It gives the tags with bytes in
their order, each stored alike, and decoded alike when it had been decoded from bytes. No tag
that is not corrupted is lost, and the header is kept but for the bytes that writing sets. -/
theorem reload (h : Reachable source p) (hmodified : p.modified = true)
    (hlength : p.toBytes.length < UInt32.size) :
    ∃ q header, ofBytes p.toBytes = .ok q ∧
      List.Forall₂ (fun t u => t.SameStored u ∧ (t.IsRead → t.SameContent u))
        (p.tags.filter fun tag => !tag.block.isEmpty) q.tags ∧
      (∀ tag ∈ p.tags, tag.status = .ok → tag ∈ p.tags.filter fun tag => !tag.block.isEmpty) ∧
      q.header = some header ∧
      ∀ i, ¬ SetByWriting (p.header.getD HeaderBlock.zero) i →
        header.val[i]? = (p.header.getD HeaderBlock.zero).val[i]? := by
  have hp := h.consistent
  have hrewritten := unchangedBytes?_of_modified hmodified
  have hbytes := toBytes_of_rewritten hrewritten
  have haccepted := hp.accepted_toBytes hlength
  refine ⟨_, _, ofBytes_of_accepted haccepted, ?_, ?_, rfl, ?_⟩
  -- the tags with bytes
  · rw [tags_fresh_container hbytes haccepted.headerSize_le hlength]
    exact forall₂_placed _ _ _ hp.writtenTags_built
  -- the tags that are not corrupted
  · intro tag htag hok
    refine List.mem_filter.mpr ⟨htag, ?_⟩
    have hblock := (hp.built tag htag).block_ne_nil hok
    cases hempty : tag.block with
    | nil => exact absurd hempty hblock
    | cons byte rest => rfl
  -- the header
  · intro i hi
    rw [leadingHeader_container hbytes haccepted.headerSize_le, getElem?_sizedHeader _ hi]

/-- A pattern with a copyright of odd length and, in front of it, a description without bytes. -/
def twoTags : Profile :=
  (((ofField .colorSpace 0x52474220).serve
    (.addTag (Tag.ofBlock Signature.copyright (PlainText.encode "free")) none)).2.serve
    (.addTag (Tag.ofBlock Signature.description []) (some 0))).2

theorem reload_twoTags :
    Reachable none twoTags ∧ twoTags.modified = true ∧ twoTags.toBytes.length < UInt32.size ∧
      ∃ q, ofBytes twoTags.toBytes = .ok q ∧ q.tags.map (·.block) = [PlainText.encode "free"] := by
  have hreachable : Reachable none twoTags :=
    .serve _ (.inl (.read (.ofBlock ..))) (.serve _ (.inl (.read (.ofBlock ..))) (.ofField ..))
  have hlength : twoTags.toBytes.length < UInt32.size := by
    rw [length_toBytes_of_rewritten rfl]
    decide +kernel
  have hwritten : (twoTags.tags.filter fun tag => !tag.block.isEmpty) =
      [Tag.ofBlock Signature.copyright (PlainText.encode "free")] := by decide +kernel
  obtain ⟨q, header, hq, htags, -⟩ := reload hreachable rfl hlength
  rw [hwritten] at htags
  refine ⟨hreachable, rfl, hlength, q, hq, ?_⟩
  generalize q.tags = tags at htags ⊢
  cases htags with
  | cons hfirst hrest =>
      cases hrest
      rw [List.map_singleton, hfirst.1.block_eq, Tag.ofBlock_block]

end IccProfile.Profile
