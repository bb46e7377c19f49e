import IccProfile.Proofs.Checked.Blocks
import IccProfile.Proofs.Profile.TagList

/-!
# Profiles and tag lists with checks

Loading a profile looks at its header and at the end that its tag table declares. The tags
are read later, entry by entry, and again nothing is asked of the bytes
(`ofBytes_gives`, `tagsFrom_eq`). From then on the tag list is a list in memory; what a
change does to it is an insertion or a removal at a place that was found or cut to the
length of the list.

Memory holds the bytes of a profile and its tag list whenever they are used. The record of
a tag takes at least 88 bytes beside its block, which leaves room in a word for the sizes
that are computed when the tags are written.
-/

set_option autoImplicit false

namespace IccProfile.Checked

/-! ## Loading -/

/-- Reads a profile whose version is asked for by the flags. -/
def ofBytes (flags : LoadFlags) (data : Bytes) : Checked (Except Error Profile) := do
  let data ← hold data
  if data.length < minProfileSize then
    return .error (.container (.tooSmall minProfileSize data.length))
  match ← header? data with
  | .error fault => return .error (.container fault)
  | .ok header =>
    match header.validate data.length with
    | .error fault => return .error (.container fault)
    | .ok () =>
      let count := (← wordAt data headerSize).toNat
      let tableEnd? := (mul? count 12).bind (add? · minProfileSize)
      if !tableEnd?.any (· ≤ data.length) then
        return .error (.container (.corrupted (.tagTable count data.length)))
      if !flags.accepts header.version.major then
        return .error (.versionFiltered header.version.major)
      let front ← block (← slice data 0 headerSize)
      return .ok { raw := some data, header := some front }

theorem ofBytes_gives (flags : LoadFlags) (data : Bytes) :
    Gives (ofBytes flags data) (Profile.ofBytesWith flags data) := by
  apply gives_hold
  intro h
  unfold Profile.ofBytesWith
  split
  · exact gives_ok _
  · next hshort =>
      have hfit : headerSize ≤ data.length := by
        rw [minProfileSize] at hshort
        rw [headerSize]
        omega
      have hcount := (Bytes.wordAt data headerSize).toNat_lt
      have hstop : (mul? (Profile.declaredTagCount data) 12).bind (add? · minProfileSize) =
          some (Profile.declaredTagCount data * 12 + minProfileSize) := by
        rw [Profile.declaredTagCount, mul?, if_pos (by omega), Option.bind_some,
          add?_eq (by rw [minProfileSize]; omega)]
      have hfront : (data.take headerSize).length = headerSize := by
        rw [List.length_take, Nat.min_eq_left hfit]
      rw [header?_eq h, ok_bind]
      cases Header.ofBytes? data with
      | error fault => exact gives_ok _
      | ok header =>
          cases hvalid : header.validate data.length with
          | error fault =>
              simp only [hvalid, bind, Except.bind, Except.mapError]
              exact gives_ok _
          | ok checked =>
              rw [Profile.declaredTagCount] at hstop
              simp only [hvalid, Except.mapError, wordAt_eq h, hstop, ok_bind, Option.any_some,
                slice_eq data 0 _ (Nat.zero_le _) hfit, List.drop_zero, Nat.sub_zero,
                block_eq hfront, dif_pos hfront, Profile.declaredTagCount]
              simp only [hvalid, bind, Except.bind, pure, Except.pure]
              by_cases htable :
                  (Bytes.wordAt data headerSize).toNat * 12 + minProfileSize ≤ data.length
              · simp only [htable, Nat.not_lt.mpr htable, decide_true, Bool.not_true, if_false]
                cases flags.accepts header.version.major <;> exact gives_ok _
              · simp only [htable, Nat.lt_of_not_le htable, decide_false, Bool.not_false, if_true]
                exact gives_ok _

/-! ## Tag lists -/

/-- The tags of the entries of a tag table from an index on. -/
def tagsFrom (data : Bytes) (preferred : Signature) : (count index : Nat) → Checked (List Tag)
  | 0, _ => return []
  | count + 1, index => do
    let entry ← add minProfileSize (← mul index 12)
    let signature? ← readWord? data entry
    let offset? ← readWord? data (← add entry 4)
    let size? ← readWord? data (← add entry 8)
    match signature?, offset?, size? with
    | some signature, some offset, some size =>
      let tag ← tagOfContainer data signature offset size preferred
      return tag :: (← tagsFrom data preferred count (index + 1))
    | _, _, _ => return []

/-- The pseudo tag that holds the header. -/
def headerTag (header : HeaderBlock) : Checked Tag := do
  let preferred ← readField .cmm header.val
  return { Tag.ofHeader header with modules := { profile := preferred, last := Signature.decoder } }

/-- The tag list read from the bytes. -/
def readTags (p : Profile) : Checked (List Tag) :=
  match p.header with
  | none => return []
  | some header => do
    let first ← headerTag header
    match p.raw with
    | none => return [first]
    | some data =>
      let data ← hold data
      let count ← wordAt data headerSize
      return first :: (← tagsFrom data first.modules.profile count.toNat 0)

/-- The tag list with the pseudo tag of the header, which is read when it is not there. -/
def allTags (p : Profile) : Checked (List Tag) := do
  let tags ← (match p.tagList with
    | some tags => pure tags
    | none => readTags p)
  holdAll 88 (tags.map (·.block.length))
  return tags

/-- A tag list without a pseudo tag in the first place. -/
def visible : List Tag → Checked (List Tag)
  | [] => return []
  | first :: rest =>
    if first.isHeader then slice (first :: rest) 1 (first :: rest).length
    else return first :: rest

/-- An entry that is read at all is read within the table, whose places are small numbers. -/
theorem tagsFrom_eq {data : Bytes} (h : data.length < 2 ^ 63) (preferred : Signature)
    (count index : Nat) (hcount : index + count < 2 ^ 32) :
    tagsFrom data preferred count index = .ok (Profile.tagsFrom data preferred count index) := by
  induction count generalizing index with
  | zero => rfl
  | succ count ih =>
      have hrest := ih (index + 1) (by omega)
      rw [tagsFrom, Profile.tagsFrom, minProfileSize, mul_eq (by omega), ok_bind,
        add_eq (by omega), ok_bind, readWord?_eq h, ok_bind, add_eq (by omega), ok_bind,
        readWord?_eq h, ok_bind, add_eq (by omega), ok_bind, readWord?_eq h, ok_bind]
      cases Bytes.u32At? data (132 + index * 12) with
      | none => rfl
      | some signature =>
          cases Bytes.u32At? data (132 + index * 12 + 4) with
          | none => rfl
          | some offset =>
              cases Bytes.u32At? data (132 + index * 12 + 8) with
              | none => rfl
              | some size => simp only [tagOfContainer_eq h, hrest, ok_bind, pure_eq]

theorem headerTag_eq (header : HeaderBlock) : headerTag header = .ok (Tag.ofHeader header) := by
  rw [headerTag, readField_eq .cmm (by rw [header.property]; decide)]
  rfl

theorem readTags_gives (p : Profile) : Gives (readTags p) p.readTags := by
  unfold readTags Profile.readTags
  cases p.header with
  | none => exact gives_ok _
  | some header =>
      simp only [headerTag_eq, ok_bind]
      cases p.raw with
      | none => exact gives_ok _
      | some data =>
          apply gives_hold
          intro h
          have hcount := (Bytes.wordAt data headerSize).toNat_lt
          rw [wordAt_eq h, ok_bind, tagsFrom_eq h _ _ 0 (by omega), ok_bind]
          exact gives_ok _

/-- A run goes on with the tag list, whose blocks memory holds. -/
theorem gives_allTags {α : Type} {f : List Tag → Checked α} {w : α} {p : Profile}
    (hf : Fits 88 (p.allTags.map (·.block.length)) → Gives (f p.allTags) w) :
    Gives (allTags p >>= f) w := by
  have htags : Gives (match p.tagList with
      | some tags => pure tags
      | none => readTags p) p.allTags := by
    rw [Profile.allTags]
    cases p.tagList with
    | none => exact readTags_gives p
    | some tags => exact gives_ok _
  rw [allTags, bind_assoc]
  apply htags.bind
  rw [bind_assoc]
  apply gives_holdAll
  intro hfits
  exact hf hfits

theorem visible_eq (tags : List Tag) : visible tags = .ok (Profile.withoutHeader tags) := by
  cases tags with
  | nil => rfl
  | cons first rest =>
      rw [visible, Profile.withoutHeader]
      split
      · rw [slice_eq _ _ _ (by simp) (Nat.le_refl _)]
        simp
      · rfl

/-! ## Changes -/

/-- The value of a header field, zero without a header. -/
def field (p : Profile) (f : HeaderField) : Checked UInt32 :=
  match p.header with
  | some header => readField f header.val
  | none => return 0

/-- Brings the pseudo tag in line with the header, once the tag list is there. -/
def syncHeaderTag (p : Profile) : Checked Profile :=
  match p.header, p.tagList with
  | some header, some tags => do
    let tag ← headerTag header
    match tags with
    | [] => return { p with tagList := some (← insert [] 0 tag) }
    | first :: rest =>
      if first.isHeader then return { p with tagList := some (tag :: rest) }
      else return { p with tagList := some (← insert (first :: rest) 0 tag) }
  | _, _ => return p

/-- Sets a header field; the first one gives the profile a header of zeros. -/
def setField (p : Profile) (f : HeaderField) (value : UInt32) : Checked Profile := do
  let header := p.header.getD HeaderBlock.zero
  let written ← block (← writeField f header.val value)
  return (← syncHeaderTag { p with header := some written }).changed

/-- Inserts a tag at a position among the visible tags, or behind them. -/
def addTag (p : Profile) (tag : Tag) (position : Option Nat) : Checked (Except Error Profile) := do
  if tag.isHeader then return .error (.invalidArgument .headerAsTag)
  let kept := (← allTags p).filter (·.signature ≠ tag.signature)
  let skip := if kept.head?.any Tag.isHeader then 1 else 0
  let index ← (match position with
    | none => pure kept.length
    | some position => return min (← add position skip) kept.length)
  return .ok (p.setTags (← insert kept index tag))

/-- Removes the first tag of a signature, which it also gives. -/
def removeTag (p : Profile) (signature : Signature) : Checked (Option Tag × Profile) := do
  if signature = Signature.header then return (none, p)
  let tags ← allTags p
  if ((← visible tags).find? (·.signature = signature)).isNone then
    return (none, { p with tagList := some tags })
  match tags.findIdx? (·.signature = signature) with
  | none => return (none, p.setTags tags)
  | some index =>
    let tag ← item tags index
    return (some tag, p.setTags (← remove tags index))

theorem field_eq (p : Profile) (f : HeaderField) : field p f = .ok (p.field f) := by
  unfold field Profile.field
  cases p.header with
  | none => rfl
  | some header => exact readField_eq f (by rw [header.property]; decide)

theorem syncHeaderTag_eq (p : Profile) : syncHeaderTag p = .ok p.syncHeaderTag := by
  unfold syncHeaderTag Profile.syncHeaderTag
  cases p.header with
  | none => rfl
  | some header =>
      cases p.tagList with
      | none => rfl
      | some tags =>
          simp only [headerTag_eq, ok_bind]
          cases tags with
          | nil => rfl
          | cons first rest =>
              simp only [Profile.withHeader, insert_eq (Nat.zero_le _), ok_bind, pure_eq,
                List.insertIdx_zero]
              split <;> rfl

theorem setField_eq (p : Profile) (f : HeaderField) (value : UInt32) :
    setField p f value = .ok (p.setField f value) := by
  have hlength : (p.header.getD HeaderBlock.zero).val.length = headerSize :=
    (p.header.getD HeaderBlock.zero).property
  have hwritten : (f.write (p.header.getD HeaderBlock.zero).val value).length = headerSize := by
    rw [HeaderField.length_write, hlength]
  rw [setField, writeField_eq f (by rw [hlength]) (by rw [hlength]; decide), ok_bind,
    block_eq hwritten, ok_bind, syncHeaderTag_eq, ok_bind]
  rfl

/-- A tag is inserted within the list, as its place is cut to the length of the list. -/
theorem addTag_gives (p : Profile) (tag : Tag) (position : Option Nat)
    (hposition : ∀ n ∈ position, n < 2 ^ 64 - 1) :
    Gives (addTag p tag position) (p.addTag tag position) := by
  unfold addTag Profile.addTag
  split
  · exact gives_ok _
  · apply gives_allTags
    intro _
    generalize p.allTags.filter (·.signature ≠ tag.signature) = kept
    cases position with
    | none =>
        simp only [pure_eq, ok_bind, insert_eq (Nat.le_refl _)]
        exact gives_ok _
    | some n =>
        have hn := hposition n rfl
        simp only
        rw [add_eq (by split <;> omega), ok_bind, pure_eq, ok_bind, insert_eq (Nat.min_le_right ..)]
        exact gives_ok _

/-- The first tag of a signature that is not that of the pseudo tag is a visible one. -/
theorem find?_withoutHeader {signature : Signature} (h : signature ≠ Signature.header)
    (tags : List Tag) :
    (Profile.withoutHeader tags).find? (·.signature = signature) =
      tags.find? (·.signature = signature) := by
  cases tags with
  | nil => rfl
  | cons first rest =>
      rw [Profile.withoutHeader]
      split
      · next hfirst =>
          have hother : first.signature ≠ signature := by
            intro hsame
            exact h (hsame.symm.trans (of_decide_eq_true hfirst))
          rw [List.find?_cons_of_neg (by simpa using hother)]
      · rfl

theorem removeTag_gives (p : Profile) (signature : Signature) :
    Gives (removeTag p signature) (p.removeTag signature) := by
  unfold removeTag Profile.removeTag
  split
  · exact gives_ok _
  · next hsignature =>
      apply gives_allTags
      intro _
      rw [visible_eq, ok_bind, find?_withoutHeader hsignature, Profile.tag?, Profile.tags,
        find?_withoutHeader hsignature, List.eraseP_eq_eraseIdx,
        List.find?_eq_bind_findIdx?_getElem?]
      cases hindex : p.allTags.findIdx? (·.signature = signature) with
      | none => exact gives_ok _
      | some index =>
          have hlt : index < p.allTags.length :=
            (List.findIdx?_eq_some_iff_getElem.mp hindex).1
          simp only [Option.bind_some, List.getElem?_eq_getElem hlt, item_eq hlt, ok_bind,
            remove_eq hlt]
          exact gives_ok _

end IccProfile.Checked
