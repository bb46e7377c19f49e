import IccProfile.Proofs.Profile.Container
import IccProfile.Proofs.Profile.Reachable

/-!
# The invariant of profiles

The header of a profile stands in its raw bytes, in its header block and in the pseudo
tag of a list that may not have been read yet, and its identity may be remembered.
`Consistent source p` says how they go together, and that the raw bytes are those of
the source up to the ID.

Each step keeps the invariant, so it holds of every reachable profile
(`Reachable.consistent`). Storing an ID is the step that touches all the places at
once; `computedId_repairId` and `freshId_repairId` say that the identity it stores is
the one found afterwards.
-/

set_option autoImplicit false

namespace IccProfile.Profile

/-- What holds of every reachable profile. -/
structure Consistent (source : Option Bytes) (p : Profile) : Prop where
  /-- A source was accepted. -/
  accepted : ∀ data, source = some data → Accepted data
  /-- The raw bytes are those of the source up to the ID. -/
  raw_eq : p.raw.map ProfileId.zero.stamp = source.map ProfileId.zero.stamp
  /-- As long as nothing was changed the header is that of the raw bytes. -/
  header_eq : p.modified = false → p.header.map (·.val) = p.raw.map (·.take headerSize)
  /-- As long as nothing was changed there are no tags without raw bytes. -/
  tags_eq : p.modified = false → p.raw = none → p.tags = []
  /-- The tag list goes with the header. -/
  shows : Shows p.header p.allTags p.tags
  /-- The remembered identity is the one that would be found now. -/
  knownId_eq : ∀ id, p.knownId = some id → id = p.freshId
  built : ∀ tag ∈ p.tags, tag.Built

variable {source : Option Bytes} {p q : Profile}

section Consistent

variable {raw : Bytes}

/-- Raw bytes come from a source, and are that source up to the ID. -/
theorem Consistent.source_of_raw (h : Consistent source p) (hraw : p.raw = some raw) :
    ∃ data, source = some data ∧ ProfileId.zero.stamp data = ProfileId.zero.stamp raw := by
  have hsource := h.raw_eq
  rw [hraw, Option.map_some] at hsource
  exact Option.map_eq_some_iff.mp hsource.symm

/-- The raw bytes of a consistent profile are accepted. -/
theorem Consistent.raw_accepted (h : Consistent source p) (hraw : p.raw = some raw) :
    Accepted raw := by
  obtain ⟨data, hdata, hstamp⟩ := h.source_of_raw hraw
  -- they differ from the source in the ID, which acceptance does not look at
  rw [← accepted_stamp_iff ProfileId.zero, ← hstamp, accepted_stamp_iff]
  exact h.accepted data hdata

/-- As long as nothing was changed raw bytes come with their header. -/
theorem Consistent.header_of_raw (h : Consistent source p) (hmodified : p.modified = false)
    (hraw : p.raw = some raw) :
    ∃ header, p.header = some header ∧ header.val = raw.take headerSize := by
  have hheader := h.header_eq hmodified
  rw [hraw, Option.map_some] at hheader
  exact Option.map_eq_some_iff.mp hheader

/-- As long as nothing was changed there is no header without raw bytes. -/
theorem Consistent.header_of_none (h : Consistent source p) (hmodified : p.modified = false)
    (hraw : p.raw = none) : p.header = none := by
  have hheader := h.header_eq hmodified
  rwa [hraw, Option.map_none, Option.map_eq_none_iff] at hheader

end Consistent

/-- The raw bytes serve as the written form when nothing was changed. -/
theorem unchangedBytes?_eq_some {data : Bytes} :
    p.unchangedBytes? = some data ↔ p.modified = false ∧ p.raw = some data := by
  unfold unchangedBytes?
  cases p.modified with
  | false => exact ⟨fun h => ⟨rfl, h⟩, fun h => h.2⟩
  | true => exact ⟨(nomatch ·), fun h => nomatch h.1⟩

/-! ## Origins -/

theorem consistent_empty : Consistent none empty where
  accepted := fun _ h => nomatch h
  raw_eq := rfl
  header_eq := fun _ => rfl
  tags_eq := fun _ _ => rfl
  shows := .bare fun _ h => absurd h List.not_mem_nil
  knownId_eq := fun _ h => nomatch h
  built := fun _ h => absurd h List.not_mem_nil

theorem consistent_fresh {data : Bytes} (h : Accepted data) :
    Consistent (some data) (fresh data h.headerSize_le) where
  accepted := by
    rintro _ ⟨⟩
    exact h
  raw_eq := rfl
  header_eq := fun _ => rfl
  tags_eq := fun _ hraw => nomatch hraw
  shows := shows_readTags _
  knownId_eq := fun _ h => nomatch h
  built := fun _ htag => .read (isRead_of_mem_readTags (p := fresh data _) htag)

/-! ## Lists that are read anew -/

/-- A profile has the list of another, or one that is still to be read. -/
def SameList (p q : Profile) : Prop := q.tagList = none ∨ q.allTags = p.allTags

theorem sameList_of_tagList (h : q.tagList = p.tagList ∨ q.tagList = some p.allTags) :
    SameList p q := by
  rcases h with h | h
  · cases hlist : p.tagList with
    | none => exact .inl (h.trans hlist)
    | some tags =>
        refine .inr ?_
        rw [allTags, allTags, h, hlist, Option.getD_some, Option.getD_some]
  · exact .inr (by rw [allTags, h, Option.getD_some])

namespace SameList

theorem built (h : SameList p q) (hp : ∀ tag ∈ p.tags, tag.Built) : ∀ tag ∈ q.tags, tag.Built := by
  intro tag htag
  rcases h with hlist | hsame
  · rw [tags, allTags, hlist, Option.getD_none] at htag
    exact .read (isRead_of_mem_readTags htag)
  · rw [tags, hsame] at htag
    exact hp tag htag

theorem shows_none (h : SameList p q) (hp : Shows p.header p.allTags p.tags)
    (hheader : q.header = none → p.header = none) (hq : q.header = none) :
    Shows none q.allTags q.tags := by
  rcases h with hlist | hsame
  · have hread := shows_readTags q
    rwa [hq, ← Option.getD_none (a := q.readTags), ← hlist] at hread
  · rw [tags, hsame, ← hheader hq]
    exact hp

end SameList

/-! ## Changes -/

/-- A new tag list that goes with the header keeps the invariant. -/
theorem Consistent.setTags (h : Consistent source p) {tags seen : List Tag}
    (hshows : Shows p.header tags seen) (hbuilt : ∀ tag ∈ seen, tag.Built) :
    Consistent source (p.setTags tags) where
  accepted := h.accepted
  raw_eq := h.raw_eq
  header_eq := fun hmodified => nomatch hmodified
  tags_eq := fun hmodified => nomatch hmodified
  shows := by
    have hseen : (p.setTags tags).tags = seen := hshows.withoutHeader_eq
    rw [hseen]
    exact hshows
  knownId_eq := fun _ hid => nomatch hid
  built := by
    have hseen : (p.setTags tags).tags = seen := hshows.withoutHeader_eq
    rw [hseen]
    exact hbuilt

theorem Consistent.insertTag (h : Consistent source p) {tag : Tag} (hbuilt : tag.Built)
    (hheader : tag.isHeader = false) (position : Option Nat) :
    Consistent source (p.setTags (insertTag p.allTags tag position)) := by
  apply h.setTags (h.shows.insertTag hheader position)
  intro t ht
  rcases (List.mem_insertIdx (Nat.min_le_right ..)).mp ht with rfl | hkept
  · exact hbuilt
  · exact h.built t (List.mem_filter.mp hkept).1

theorem Consistent.eraseTag (h : Consistent source p) {signature : Signature}
    (hsignature : signature ≠ Signature.header) :
    Consistent source (p.setTags (p.allTags.eraseP (·.signature = signature))) :=
  h.setTags (h.shows.eraseP hsignature) fun t ht => h.built t (List.mem_of_mem_eraseP ht)

/-- Setting a field changes the header and marks the change; the list is brought in line. -/
theorem setField_eq (p : Profile) (f : HeaderField) (value : UInt32) :
    ∃ header tagList, p.setField f value =
      { p with header := some header, tagList, modified := true, knownId := none } := by
  rw [Profile.setField, syncHeaderTag_eq]
  exact ⟨_, _, rfl⟩

theorem Consistent.setField (h : Consistent source p) (f : HeaderField) (value : UInt32) :
    Consistent source (p.setField f value) := by
  -- the profile with the new header, its list still the old one
  let q : Profile := { p with header := some ((p.header.getD HeaderBlock.zero).write f value) }
  have htags : (p.setField f value).tags = q.tags := tags_syncHeaderTag q
  have hlist : SameList p q := sameList_of_tagList (.inl rfl)
  have hshows : Shows (p.setField f value).header (p.setField f value).allTags q.tags := by
    have hsync := shows_syncHeaderTag q fun hheader => nomatch hheader
    rwa [← header_syncHeaderTag q] at hsync
  obtain ⟨header, tagList, heq⟩ := setField_eq p f value
  constructor
  · exact h.accepted
  · rw [heq]
    exact h.raw_eq
  · rw [heq]
    exact fun hmodified => nomatch hmodified
  · rw [heq]
    exact fun hmodified => nomatch hmodified
  · rw [htags]
    exact hshows
  · rw [heq]
    exact fun _ hid => nomatch hid
  · rw [htags]
    exact hlist.built h.built

/-! ## Storing an ID -/

/-- A profile with an ID in its header and its raw bytes, the list not yet in line. -/
def stamped (p : Profile) (id : ProfileId) : Profile :=
  { p with header := p.header.map id.stampHeader, raw := p.raw.map id.stamp }

theorem repairId_eq (p : Profile) :
    p.repairId =
      { (p.afterWriting.stamped p.computedId).syncHeaderTag with knownId := some p.computedId } :=
  rfl

/-- Asking for the written form changes nothing but the list. -/
theorem afterWriting_eq (p : Profile) :
    p.afterWriting = { p with tagList := p.afterWriting.tagList } := by
  unfold afterWriting
  split <;> rfl

theorem header_repairId (p : Profile) :
    p.repairId.header = p.header.map p.computedId.stampHeader := by
  rw [repairId_eq, header_syncHeaderTag, stamped, afterWriting_eq]

theorem raw_repairId (p : Profile) : p.repairId.raw = p.raw.map p.computedId.stamp := by
  rw [repairId_eq, syncHeaderTag_eq, stamped, afterWriting_eq]

theorem modified_repairId (p : Profile) : p.repairId.modified = p.modified := by
  rw [repairId_eq, syncHeaderTag_eq, stamped, afterWriting_eq]

theorem tags_repairId (p : Profile) :
    p.repairId.tags = (p.afterWriting.stamped p.computedId).tags := tags_syncHeaderTag _

/-- A profile that is written anew shows the same tags after an ID was stored in it. -/
theorem tags_repairId_of_rewritten (h : p.unchangedBytes? = none) :
    p.repairId.tags = p.tags := by
  rw [tags_repairId, afterWriting, h]
  rfl

/-- Storing an ID stores it in the bytes that serve as the written form. -/
theorem unchangedBytes?_repairId (p : Profile) :
    p.repairId.unchangedBytes? = p.unchangedBytes?.map p.computedId.stamp := by
  rw [unchangedBytes?, unchangedBytes?, modified_repairId, raw_repairId]
  split <;> rfl

/-- The written header does not depend on the ID of the header. -/
theorem writtenHeader_repairId (p : Profile) : p.repairId.writtenHeader = p.writtenHeader := by
  have hstart : ProfileId.zero.stampHeader (p.repairId.header.getD HeaderBlock.zero) =
      ProfileId.zero.stampHeader (p.header.getD HeaderBlock.zero) := by
    rw [header_repairId]
    cases p.header with
    | none => rfl
    | some header => exact ProfileId.stampHeader_stampHeader ..
  rw [writtenHeader, writtenHeader, hstart]

/-- A profile that is written anew is written alike after an ID was stored in it. -/
theorem serialize_repairId (h : p.unchangedBytes? = none) :
    p.repairId.serialize = p.serialize := by
  rw [serialize, serialize, writtenTags, writtenTags, tags_repairId_of_rewritten h,
    writtenHeader_repairId]

/-- Storing the computed identity leaves it the computed one. -/
theorem computedId_repairId (h : Consistent source p) : p.repairId.computedId = p.computedId := by
  have hbytes := unchangedBytes?_repairId p
  cases hunchanged : p.unchangedBytes? with
  | none =>
      -- neither the header without its ID nor the tags are altered
      rw [hunchanged, Option.map_none] at hbytes
      rw [computedId_of_rewritten hbytes, computedId_of_rewritten hunchanged,
        serialize_repairId hunchanged]
  | some data =>
      -- only the ID of the raw bytes is altered
      rw [hunchanged, Option.map_some] at hbytes
      have hraw := (unchangedBytes?_eq_some.mp hunchanged).2
      rw [computedId_of_unchanged hbytes, computedId_of_unchanged hunchanged,
        ProfileId.ofContent_stamp _ (h.raw_accepted hraw).headerSize_le]

/-- The stored identity is found in the header, if there is one, unless it stands for none. -/
theorem embeddedId?_repairId (p : Profile) :
    p.repairId.embeddedId? =
      p.header.bind fun _ => if p.computedId.isZero then none else some p.computedId := by
  rw [embeddedId?, header_repairId]
  cases p.header with
  | none => rfl
  | some header =>
      rw [Option.map_some, Option.bind_some, Option.bind_some, HeaderBlock.val_stampHeader,
        ProfileId.embedded?_stamp _ header.headerSize_le]

/-- The identity that was stored is the one found afterwards. -/
theorem freshId_repairId (h : Consistent source p) : p.repairId.freshId = p.computedId := by
  have hcomputed := computedId_repairId h
  -- the header is missing, or it holds the identity unless that stands for none
  have hembedded : p.repairId.embeddedId? = none ∨
      p.repairId.embeddedId? = some p.computedId := by
    rw [embeddedId?_repairId]
    cases p.header with
    | none => exact .inl rfl
    | some header =>
        cases p.computedId.isZero with
        | true => exact .inl rfl
        | false => exact .inr rfl
  rcases hembedded with hnone | hsome
  · rw [freshId, hnone, hcomputed]
  · rw [freshId, hsome, hcomputed]
    simp only [ite_self]

theorem Consistent.repairId (h : Consistent source p) : Consistent source p.repairId := by
  -- a list that was not read yet is read from the stamped bytes
  have hlist : SameList p (p.afterWriting.stamped p.computedId) := by
    apply sameList_of_tagList
    rw [stamped, afterWriting]
    split
    · exact .inl rfl
    · exact .inr rfl
  constructor
  · exact h.accepted
  · rw [raw_repairId, Option.map_map, ← h.raw_eq]
    congr 1
    funext data
    exact ProfileId.stamp_stamp ..
  · intro hmodified
    rw [modified_repairId] at hmodified
    rw [header_repairId, raw_repairId]
    cases hraw : p.raw with
    | none =>
        rw [h.header_of_none hmodified hraw]
        rfl
    | some data =>
        obtain ⟨header, hsome, hval⟩ := h.header_of_raw hmodified hraw
        -- the header and the raw bytes have got the same ID
        rw [hsome, Option.map_some, Option.map_some, Option.map_some, Option.map_some,
          HeaderBlock.val_stampHeader, hval,
          ProfileId.take_stamp _ (h.raw_accepted hraw).headerSize_le]
  · intro hmodified hraw
    rw [modified_repairId] at hmodified
    rw [raw_repairId, Option.map_eq_none_iff] at hraw
    have hrewritten : p.unchangedBytes? = none := by
      rw [unchangedBytes?, hraw, hmodified]
      rfl
    rw [tags_repairId_of_rewritten hrewritten]
    exact h.tags_eq hmodified hraw
  · rw [tags_repairId]
    have hsync := shows_syncHeaderTag (p.afterWriting.stamped p.computedId)
      (hlist.shows_none h.shows ?_)
    · rwa [← header_syncHeaderTag] at hsync
    · rw [stamped, afterWriting_eq]
      exact Option.map_eq_none_iff.mp
  · rintro id ⟨⟩
    exact (freshId_repairId h).symm
  · rw [tags_repairId]
    exact hlist.built h.built

/-! ## Reachable profiles -/

/-- Each step keeps the invariant. -/
theorem Consistent.move (h : Consistent source p) (hmove : Move p q) : Consistent source q := by
  cases hmove with
  | materialize =>
      exact ⟨h.accepted, h.raw_eq, h.header_eq, h.tags_eq, h.shows, h.knownId_eq, h.built⟩
  | rememberId =>
      exact ⟨h.accepted, h.raw_eq, h.header_eq, h.tags_eq, h.shows,
        fun id hid => (Option.some.inj hid).symm, h.built⟩
  | annotate =>
      exact ⟨h.accepted, h.raw_eq, h.header_eq, h.tags_eq, h.shows, h.knownId_eq, h.built⟩
  | setField f value => exact h.setField f value
  | insertTag hbuilt hheader position => exact h.insertTag hbuilt hheader position
  | eraseTag hsignature => exact h.eraseTag hsignature
  | repairId => exact h.repairId

/-- The invariant holds of every reachable profile. -/
theorem Reachable.consistent (h : Reachable source p) : Consistent source p := by
  apply h.invariant consistent_empty
  · intro flags data p hread
    obtain ⟨haccepted, -, rfl⟩ := ofBytesWith_ok_iff.mp hread
    exact consistent_fresh haccepted
  · intro source p q hp hmove
    exact hp.move hmove

end IccProfile.Profile
