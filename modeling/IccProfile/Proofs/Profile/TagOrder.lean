import IccProfile.Proofs.Profile.Consistent

/-!
# Edits of the visible tags

To its callers a profile is a list of tags: adding a tag takes out those of its
signature and inserts it at a position, removing a tag takes out the first of a
signature. The stored list has the pseudo tag of the header in front once there is a
header, and a file may name one of its own tags like the pseudo tag.

`tags_edited` says that neither is seen: in every reachable profile the edits act on the
visible tags alone, and a header that comes later leaves every tag in its place.
-/

set_option autoImplicit false

namespace IccProfile.Profile

variable {source : Option Bytes} {p : Profile} {tag : Tag}

/-! ## Lists -/

/-- After an insertion exactly one tag has the signature of the inserted one. -/
theorem filter_insertSeen (seen : List Tag) (tag : Tag) (position : Option Nat) :
    (insertSeen seen tag position).filter (·.signature = tag.signature) = [tag] := by
  simp only [insertSeen]
  generalize hkept : seen.filter (·.signature ≠ tag.signature) = kept
  have hnone : kept.filter (·.signature = tag.signature) = [] := by
    simp [← hkept]
  -- the order of the other tags does not matter, since they are filtered out
  have hperm := (List.perm_insertIdx tag kept
    (Nat.min_le_right (position.getD kept.length) kept.length)).filter
      (·.signature = tag.signature)
  simp only [List.filter_cons, decide_true, if_true, hnone] at hperm
  exact List.perm_singleton.mp hperm

section First

variable {before after : List Tag} (hbefore : ∀ t ∈ before, t.signature ≠ tag.signature)
include hbefore

/-- The first tag of a signature is found behind tags of other signatures. -/
theorem find?_first :
    (before ++ tag :: after).find? (·.signature = tag.signature) = some tag := by
  have hnone : before.find? (·.signature = tag.signature) = none := by
    simpa using hbefore
  simp [List.find?_append, hnone]

/-- Removing it leaves the tags before and behind it in their order. -/
theorem eraseP_first :
    (before ++ tag :: after).eraseP (·.signature = tag.signature) = before ++ after := by
  rw [List.eraseP_append_right]
  · simp
  · simpa using hbefore

end First

/-! ## Removing nothing -/

/-- A signature that no visible tag has, and that of the pseudo tag, remove nothing: all that
may happen is that the tag list is read. -/
theorem removeTag_of_absent {signature : Signature}
    (h : signature = Signature.header ∨ ∀ t ∈ p.tags, t.signature ≠ signature) :
    (p.removeTag signature).1 = none ∧
      (p.removeTag signature).2.materialized = p.materialized := by
  unfold removeTag
  split
  · exact ⟨rfl, rfl⟩
  · next hsignature =>
      have hnone : p.tag? signature = none := by
        simpa [tag?] using h.resolve_left hsignature
      rw [hnone]
      exact ⟨rfl, rfl⟩

/-! ## The first header field -/

/-- A step keeps raw bytes together with a header. -/
theorem header_of_raw_move {p q : Profile} (hmove : Move p q)
    (hp : p.raw.isSome = true → p.header.isSome = true) :
    q.raw.isSome = true → q.header.isSome = true := by
  cases hmove with
  | materialize => exact hp
  | rememberId => exact hp
  | annotate => exact hp
  | setField f value =>
      obtain ⟨header, tagList, heq⟩ := setField_eq p f value
      rw [heq]
      exact fun _ => rfl
  | insertTag => exact hp
  | eraseTag => exact hp
  | repairId => simpa [header_repairId, raw_repairId] using hp

/-- Raw bytes come with a header, whatever the profile was made from. -/
def Headed (_ : Option Bytes) (p : Profile) : Prop := p.raw.isSome = true → p.header.isSome = true

/-- A profile with raw bytes has a header. -/
theorem Reachable.header_of_raw (h : Reachable source p) :
    p.raw.isSome = true → p.header.isSome = true := by
  change Headed source p
  refine Reachable.invariant ?_ ?_ ?_ h
  · exact fun hraw => nomatch hraw
  · intro flags data p hread
    obtain ⟨haccepted, -, rfl⟩ := ofBytesWith_ok_iff.mp hread
    exact fun _ => rfl
  · intro source p q hp hmove
    exact header_of_raw_move hmove hp

/-- A profile without a header has read its tags or has none, so its first header field leaves
them where they are. -/
theorem Reachable.tags_setField (h : Reachable source p) (hheader : p.header = none)
    (f : HeaderField) (value : UInt32) : (p.setField f value).tags = p.tags := by
  have hsync : (p.setField f value).tags = ({ p with
      header := some ((p.header.getD HeaderBlock.zero).write f value) } : Profile).tags :=
    tags_syncHeaderTag _
  rw [hsync]
  cases hlist : p.tagList with
  | some tags => simp [Profile.tags, allTags, hlist]
  | none =>
      have hraw : p.raw = none := by
        cases hraw : p.raw with
        | none => rfl
        | some raw =>
            have hsome := h.header_of_raw (by rw [hraw]; rfl)
            rw [hheader] at hsome
            cases hsome
      -- both lists are still to be read, and there is nothing to read them from
      simp [Profile.tags, allTags, hlist, readTags, hheader, hraw, withoutHeader,
        isHeader_ofHeader]

/-! ## The visible tags as a list -/

/-- In a reachable profile the edits act on the visible tags alone. An added tag stands at its
position among the other tags, or at the end, and is the only one of its signature; a tag that
carries the signature of the pseudo tag is refused. Removing takes out the first tag of a
signature and gives it, and changes nothing when there is none or the signature is that of the
pseudo tag. A header that comes later leaves the tags in their places. -/
theorem tags_edited (h : Reachable source p) :
    (∀ (tag : Tag) (position : Option Nat), tag.isHeader = false →
      ∃ q, p.addTag tag position = .ok q ∧ q.tags = insertSeen p.tags tag position ∧
        q.tags.filter (·.signature = tag.signature) = [tag]) ∧
    (∀ (tag : Tag) (position : Option Nat), tag.isHeader = true →
      p.serve (.addTag tag position) = (.failed (.invalidArgument .headerAsTag), p)) ∧
    (∀ (before : List Tag) (tag : Tag) (after : List Tag), tag.isHeader = false →
      p.tags = before ++ tag :: after → (∀ t ∈ before, t.signature ≠ tag.signature) →
        (p.removeTag tag.signature).1 = some tag ∧
          (p.removeTag tag.signature).2.tags = before ++ after) ∧
    (∀ signature : Signature,
      (signature = Signature.header ∨ ∀ t ∈ p.tags, t.signature ≠ signature) →
        (p.removeTag signature).1 = none ∧
          (p.removeTag signature).2.materialized = p.materialized) ∧
    (p.header = none →
      ∀ (f : HeaderField) (value : UInt32), (p.setField f value).tags = p.tags) := by
  have hshows := h.consistent.shows
  refine ⟨?_, ?_, ?_, ?_, ?_⟩
  -- adding a tag
  · intro tag position htag
    have htags : (p.setTags (insertTag p.allTags tag position)).tags =
        insertSeen p.tags tag position := (hshows.insertTag htag position).withoutHeader_eq
    refine ⟨_, (addTag_ok_iff p).mpr ⟨htag, rfl⟩, htags, ?_⟩
    rw [htags, filter_insertSeen]
  -- adding the pseudo tag
  · intro tag position htag
    simp [serve, addTag, htag, answerChange]
  -- removing the first tag of a signature
  · intro before tag after htag htags hbefore
    have hsignature := signature_ne_of_not_isHeader htag
    have hfound : p.tag? tag.signature = some tag := by
      rw [tag?, htags]
      exact find?_first hbefore
    have herased : (p.setTags (p.allTags.eraseP (·.signature = tag.signature))).tags =
        p.tags.eraseP (·.signature = tag.signature) := (hshows.eraseP hsignature).withoutHeader_eq
    rw [removeTag, if_neg hsignature, hfound]
    refine ⟨rfl, ?_⟩
    rw [herased, htags]
    exact eraseP_first hbefore
  -- removing nothing
  · intro signature habsent
    exact removeTag_of_absent habsent
  -- the first header field
  · intro hheader f value
    exact h.tags_setField hheader f value

/-- A container whose tag table has two entries `cprt` and between them an entry named like the
pseudo tag. -/
def repeated : Bytes :=
  Bytes.ofSize 180 ++ List.replicate 32 0 ++ Bytes.ofWord32 Signature.magic
    ++ List.replicate 88 0 ++ Bytes.ofSize 3
    ++ Bytes.ofWord32 Signature.copyright ++ Bytes.ofSize 168 ++ Bytes.ofSize 12
    ++ Bytes.ofWord32 Signature.header ++ Bytes.ofSize 168 ++ Bytes.ofSize 12
    ++ Bytes.ofWord32 Signature.copyright ++ Bytes.ofSize 168 ++ Bytes.ofSize 12
    ++ blockHead Signature.typeText ++ [0x66, 0x72, 0x65, 0x65]

theorem accepted_repeated : Accepted repeated :=
  ⟨by decide +kernel, by decide +kernel, by decide +kernel, by decide +kernel⟩

theorem tags_edited_repeated :
    ∃ p q, Reachable (some repeated) p ∧ p.tags.length = 3 ∧
      p.addTag (Tag.ofBlock Signature.copyright (PlainText.encode "free")) (some 7) = .ok q ∧
      q.tags.map (·.signature) = [Signature.header, Signature.copyright] ∧
      (q.removeTag Signature.header).1 = none := by
  have hread : ofBytesWith {} repeated = .ok (fresh repeated accepted_repeated.headerSize_le) :=
    ofBytes_of_accepted accepted_repeated
  have hreachable : Reachable (some repeated) (fresh repeated accepted_repeated.headerSize_le) :=
    .ofBytes hread
  obtain ⟨q, hq, htags, -⟩ := (tags_edited hreachable).1
    (Tag.ofBlock Signature.copyright (PlainText.encode "free")) (some 7) (by decide +kernel)
  have hnext : Reachable (some repeated) q := by
    have hserve := Reachable.serve
      (.addTag (Tag.ofBlock Signature.copyright (PlainText.encode "free")) (some 7))
      (.inl (.read (.ofBlock ..))) hreachable
    rwa [serve, hq] at hserve
  refine ⟨_, q, hreachable, by decide +kernel, hq, ?_, ?_⟩
  · rw [htags]
    decide +kernel
  · exact ((tags_edited hnext).2.2.2.1 _ (.inl rfl)).1

end IccProfile.Profile
