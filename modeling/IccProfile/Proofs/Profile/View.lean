import IccProfile.Proofs.Profile.Consistent

/-!
# Tags that are read late

The tag list is read when it is first needed, from the bytes and the header as they are
then. What comes before can show in it: the preferred color module of a tag is the one of
the header at that time, and a tag whose range covers the ID of the header holds the ID
that was stored at that time.

A view hides as much of a tag as the header decides (`Tag.IsView`): nothing, or its
preferred color module. The tags that a profile shows are the same to a view before and
after a field is set (`tags_setField_view`) and an ID is stored (`tags_repairId_of_apart`),
when the view hides the color module that is set and the ranges in the table lie apart
from the ID.
-/

set_option autoImplicit false

namespace IccProfile

/-! ## Views -/

namespace Tag

/-- A tag without its preferred color module, which is taken from the header. -/
def unmarked (tag : Tag) : Tag := { tag with modules := { tag.modules with profile := 0 } }

/-- A view of tags that hides at most the preferred color module. -/
def IsView (view : Tag → Tag) : Prop := ∀ tag, (view tag).unmarked = tag.unmarked

theorem isView_plain : IsView fun tag => tag := fun _ => rfl

theorem isView_unmarked : IsView unmarked := fun _ => rfl

namespace IsView

variable {view : Tag → Tag} (h : IsView view) (tag : Tag)
include h

theorem signature_eq : (view tag).signature = tag.signature :=
  (congrArg Tag.signature (h tag) :)

theorem data_eq : (view tag).data = tag.data := (congrArg Tag.data (h tag) :)

theorem isCorrupted_eq : (view tag).isCorrupted = tag.isCorrupted :=
  (congrArg Tag.isCorrupted (h tag) :)

theorem sameStored : (view tag).SameStored tag :=
  ⟨(congrArg Tag.signature (h tag).symm :), (congrArg Tag.type (h tag).symm :),
    (congrArg Tag.block (h tag).symm :)⟩

end IsView

/-- The header that a tag is read with decides its preferred color module and nothing else. -/
theorem unmarked_ofContainer (container : Bytes) (signature : Signature) (offset size : UInt32)
    (preferred other : Signature) :
    (ofContainer container signature offset size preferred).unmarked =
      (ofContainer container signature offset size other).unmarked := by
  cases hread : Bytes.slice? container offset.toNat size.toNat with
  | none => simp [ofContainer, hread, unmarked]
  | some block => simp [ofContainer, hread, unmarked]

end Tag

namespace Profile

variable {data : Bytes}

/-! ## Ranges apart from the ID -/

/-- A range of bytes that holds no byte of the ID, or that leaves a container of the given
length, so that nothing is read from it. -/
def RangeApart (length offset size : Nat) : Prop :=
  size = 0 ∨ offset + size ≤ idOffset ∨ idOffset + 16 ≤ offset ∨ length < offset + size

instance (length offset size : Nat) : Decidable (RangeApart length offset size) :=
  inferInstanceAs (Decidable (_ ∨ _ ∨ _ ∨ _))

/-- A container none of whose tags holds a byte of the ID. -/
def ApartFromId (data : Bytes) : Prop :=
  ∀ index, index < declaredTagCount data →
    RangeApart data.length (Bytes.wordAt data (minProfileSize + index * 12 + 4)).toNat
      (Bytes.wordAt data (minProfileSize + index * 12 + 8)).toNat

instance (data : Bytes) : Decidable (ApartFromId data) :=
  inferInstanceAs (Decidable (∀ index, index < declaredTagCount data → _))

theorem declaredTagCount_stamp (id : ProfileId) (data : Bytes) :
    declaredTagCount (id.stamp data) = declaredTagCount data := by
  rw [declaredTagCount, declaredTagCount, ProfileId.wordAt_stamp id data (.inr (by decide))]

/-- Whether the tags lie apart from the ID does not depend on the ID. -/
theorem apartFromId_stamp_iff (id : ProfileId) :
    ApartFromId (id.stamp data) ↔ ApartFromId data := by
  simp only [ApartFromId, declaredTagCount_stamp, ProfileId.length_stamp]
  refine forall₂_congr fun index _ => ?_
  rw [ProfileId.wordAt_stamp id data (.inr (by simp only [minProfileSize, idOffset]; omega)),
    ProfileId.wordAt_stamp id data (.inr (by simp only [minProfileSize, idOffset]; omega))]

/-- A range apart from the ID holds the same bytes whatever ID is stored. -/
theorem slice?_stamp {offset size : Nat} (h : RangeApart data.length offset size)
    (id : ProfileId) :
    Bytes.slice? (id.stamp data) offset size = Bytes.slice? data offset size := by
  have hlength := ProfileId.length_stamp id data
  rcases h with rfl | hbefore | hbehind | hout
  · simp only [Bytes.slice?, hlength, List.take_zero]
  · exact Bytes.slice?_patch (.inl hbefore)
  · exact Bytes.slice?_patch (.inr (by rw [id.length_eq]; exact hbehind))
  · rw [Bytes.slice?, Bytes.slice?, if_neg (by omega), if_neg (by omega)]

/-! ## Reading a table late -/

/-- The tags of a table differ in their preferred color module alone when the header does. -/
theorem tagsFrom_unmarked (data : Bytes) (preferred other : Signature) (count index : Nat) :
    (tagsFrom data preferred count index).map Tag.unmarked =
      (tagsFrom data other count index).map Tag.unmarked := by
  induction count generalizing index with
  | zero => rfl
  | succ count ih =>
      simp only [tagsFrom]
      split
      · rw [List.map_cons, List.map_cons, ih, Tag.unmarked_ofContainer _ _ _ _ preferred other]
      · rfl

/-- The tags of a table are the same whatever ID is stored, when their ranges lie apart from it. -/
theorem tagsFrom_stamp (id : ProfileId) (preferred : Signature) (count index : Nat)
    (h : ∀ i, index ≤ i → i < index + count →
      RangeApart data.length (Bytes.wordAt data (minProfileSize + i * 12 + 4)).toNat
        (Bytes.wordAt data (minProfileSize + i * 12 + 8)).toNat) :
    tagsFrom (id.stamp data) preferred count index = tagsFrom data preferred count index := by
  induction count generalizing index with
  | zero => rfl
  | succ count ih =>
      -- the table lies behind the header
      have hword : ∀ offset, minProfileSize ≤ offset →
          Bytes.u32At? (id.stamp data) offset = Bytes.u32At? data offset := by
        intro offset hoffset
        apply Bytes.u32At?_patch
        rw [id.length_eq]
        exact .inr (Nat.le_trans (by decide) hoffset)
      have hrest := ih (index + 1) fun i hi hlt => h i (by omega) (by omega)
      simp only [tagsFrom, hword _ (Nat.le_add_right ..), hrest,
        hword (minProfileSize + index * 12 + 4) (by omega),
        hword (minProfileSize + index * 12 + 8) (by omega)]
      split
      · next hsignature hoffset hsize =>
          have hapart := h index (Nat.le_refl _) (by omega)
          rw [Bytes.wordAt, Bytes.wordAt, hoffset, hsize, Option.getD_some,
            Option.getD_some] at hapart
          simp only [Tag.ofContainer]
          rw [slice?_stamp hapart]
      · rfl

section Tags

variable {p : Profile} {header : HeaderBlock}

/-- The tags of a profile whose list was not read yet. -/
theorem tags_of_unread (hheader : p.header = some header) (hlist : p.tagList = none) :
    p.tags = match p.raw with
      | none => []
      | some data =>
        tagsFrom data (HeaderField.cmm.read header.val) (declaredTagCount data) 0 := by
  rw [tags, allTags, hlist, Option.getD_none, readTags, hheader]
  exact withoutHeader_ofHeader header _

theorem tags_of_read {tags : List Tag} (hlist : p.tagList = some tags) :
    p.tags = withoutHeader tags := by
  rw [Profile.tags, allTags, hlist, Option.getD_some]

/-- A new field of the header leaves the tags to a view, unless it is the color module that the
view shows. -/
theorem tags_setField_view {view : Tag → Tag} {f : HeaderField} (hheader : p.header = some header)
    (h : f = .cmm → view = Tag.unmarked) (value : UInt32) :
    (p.setField f value).tags.map view = p.tags.map view := by
  let q : Profile := { p with header := some (header.write f value) }
  have hsync : (p.setField f value).tags = q.tags := by
    rw [setField, hheader]
    exact tags_syncHeaderTag q
  rw [hsync]
  cases hlist : p.tagList with
  | some tags =>
      have hq : q.tagList = some tags := hlist
      rw [tags_of_read hq, tags_of_read hlist]
  | none =>
      rw [tags_of_unread (p := q) rfl hlist, tags_of_unread hheader hlist]
      have hraw : q.raw = p.raw := rfl
      rw [hraw]
      cases p.raw with
      | none => rfl
      | some data =>
          by_cases hcmm : f = .cmm
          · rw [h hcmm]
            exact tagsFrom_unmarked ..
          · simp only [HeaderBlock.val_write, HeaderField.read_write hcmm]

/-- Storing an ID leaves the tags of a container whose ranges lie apart from it. -/
theorem tags_repairId_of_apart (hheader : p.header = some header)
    (h : ∀ data, p.raw = some data → ApartFromId data) : p.repairId.tags = p.tags := by
  cases hunchanged : p.unchangedBytes? with
  | none => exact tags_repairId_of_rewritten hunchanged
  | some data =>
      have hsame : p.afterWriting = p := by
        rw [afterWriting, hunchanged]
      rw [tags_repairId, hsame]
      cases hlist : p.tagList with
      | some tags =>
          rw [tags_of_read hlist]
          exact tags_of_read hlist
      | none =>
          have hraw := (unchangedBytes?_eq_some.mp hunchanged).2
          have hstampedHeader : (p.stamped p.computedId).header =
              some (p.computedId.stampHeader header) := by
            rw [stamped, hheader, Option.map_some]
          have hstampedRaw : (p.stamped p.computedId).raw = some (p.computedId.stamp data) := by
            rw [stamped, hraw, Option.map_some]
          rw [tags_of_unread hstampedHeader hlist, tags_of_unread hheader hlist, hstampedRaw, hraw]
          simp only [HeaderBlock.val_stampHeader, HeaderField.read_stamp, declaredTagCount_stamp]
          apply tagsFrom_stamp
          intro i _ hi
          exact h data hraw i (by omega)

end Tags

end Profile

end IccProfile
