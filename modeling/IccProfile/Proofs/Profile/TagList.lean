import IccProfile.Profile.Basic
import IccProfile.Proofs.Tag.Built

/-!
# The tag list and the header

The tag list of a profile with a header starts with the pseudo tag of that header, and
that of a profile without one holds no tag of its signature. `Shows header tags seen`
says this and names the tags that are seen. It holds of a list that was just read, and
each edit of a list keeps it: a new header (`shows_withHeader`), an inserted tag
(`Shows.insertTag`), a removed one (`Shows.eraseP`).

`addTag_ok_iff` and `removeTag_eq` reduce the two changes of a profile to edits of its
list.
-/

set_option autoImplicit false

namespace IccProfile.Profile

/-- A tag list that goes with a header, and the tags of it that are seen. -/
inductive Shows : Option HeaderBlock → List Tag → List Tag → Prop
  | header (header : HeaderBlock) (seen : List Tag) :
      Shows (some header) (Tag.ofHeader header :: seen) seen
  | bare {seen : List Tag} (h : ∀ tag ∈ seen, tag.isHeader = false) : Shows none seen seen

/-- A tag list with a tag in the place of those of its signature. The position does not count
the pseudo tag. -/
def insertTag (tags : List Tag) (tag : Tag) (position : Option Nat) : List Tag :=
  let kept := tags.filter (·.signature ≠ tag.signature)
  let skip := if kept.head?.any Tag.isHeader then 1 else 0
  let index := match position with
    | none => kept.length
    | some position => min (position + skip) kept.length
  kept.insertIdx index tag

/-- The tags that are seen after a tag was inserted. -/
def insertSeen (seen : List Tag) (tag : Tag) (position : Option Nat) : List Tag :=
  let kept := seen.filter (·.signature ≠ tag.signature)
  kept.insertIdx (min (position.getD kept.length) kept.length) tag

variable {header : Option HeaderBlock} {tags seen : List Tag} {tag : Tag}

theorem isHeader_ofHeader (header : HeaderBlock) : (Tag.ofHeader header).isHeader = true :=
  decide_eq_true rfl

theorem signature_ne_of_not_isHeader (h : tag.isHeader = false) :
    tag.signature ≠ Signature.header := of_decide_eq_false h

/-! ## Lists -/

theorem withoutHeader_bare (h : ∀ tag ∈ seen, tag.isHeader = false) :
    withoutHeader seen = seen := by
  cases seen with
  | nil => rfl
  | cons first rest =>
      rw [withoutHeader, h first List.mem_cons_self]
      rfl

theorem withoutHeader_ofHeader (header : HeaderBlock) (seen : List Tag) :
    withoutHeader (Tag.ofHeader header :: seen) = seen := by
  rw [withoutHeader, isHeader_ofHeader]
  rfl

namespace Shows

theorem withoutHeader_eq (h : Shows header tags seen) : withoutHeader tags = seen := by
  cases h with
  | header header seen => exact withoutHeader_ofHeader ..
  | bare h => exact withoutHeader_bare h

/-- The pseudo tag of a list is that of the header. -/
theorem head?_filter (h : Shows header tags seen) :
    tags.head?.filter Tag.isHeader = header.map Tag.ofHeader := by
  cases h with
  | header header seen =>
      rw [List.head?_cons, Option.filter_some, isHeader_ofHeader]
      rfl
  | bare h =>
      cases tags with
      | nil => rfl
      | cons first rest =>
          rw [List.head?_cons, Option.filter_some, h first List.mem_cons_self]
          rfl

/-- Inserting a tag into the list inserts it among the tags that are seen. -/
theorem insertTag (h : Shows header tags seen) (htag : tag.isHeader = false)
    (position : Option Nat) :
    Shows header (insertTag tags tag position) (insertSeen seen tag position) := by
  cases h with
  | header header seen =>
      -- the pseudo tag is kept in front, so the position is counted behind it
      have hkept : (Tag.ofHeader header :: seen).filter (·.signature ≠ tag.signature) =
          Tag.ofHeader header :: seen.filter (·.signature ≠ tag.signature) := by
        apply List.filter_cons_of_pos
        exact decide_eq_true (signature_ne_of_not_isHeader htag).symm
      simp only [Profile.insertTag, insertSeen, hkept, List.head?_cons, Option.any_some,
        isHeader_ofHeader, if_true, List.length_cons]
      cases position with
      | none =>
          rw [Option.getD_none, Nat.min_self, List.insertIdx_succ_cons]
          exact .header ..
      | some position =>
          rw [Option.getD_some]
          simp only [Nat.add_min_add_right, List.insertIdx_succ_cons]
          exact .header ..
  | bare h =>
      -- no pseudo tag is kept, so no place is skipped
      have hkept : ∀ t ∈ tags.filter (·.signature ≠ tag.signature), t.isHeader = false :=
        fun t ht => h t ((List.mem_filter.mp ht).1)
      have hskip :
          (tags.filter (·.signature ≠ tag.signature)).head?.any Tag.isHeader = false := by
        cases hhead : (tags.filter (·.signature ≠ tag.signature)).head? with
        | none => rfl
        | some first => exact hkept first (List.mem_of_mem_head? hhead)
      have hsame : Profile.insertTag tags tag position = insertSeen tags tag position := by
        cases position with
        | none => simp only [Profile.insertTag, insertSeen, Option.getD_none, Nat.min_self]
        | some position =>
            simp only [Profile.insertTag, insertSeen, hskip, Bool.false_eq_true, if_false,
              Nat.add_zero, Option.getD_some]
      rw [hsame]
      refine .bare ?_
      intro t ht
      rcases (List.mem_insertIdx (Nat.min_le_right ..)).mp ht with rfl | ht
      · exact htag
      · exact hkept t ht

/-- Removing a tag from the list removes it from the tags that are seen. -/
theorem eraseP (h : Shows header tags seen) {signature : Signature}
    (hsignature : signature ≠ Signature.header) :
    Shows header (tags.eraseP (·.signature = signature))
      (seen.eraseP (·.signature = signature)) := by
  cases h with
  | header header seen =>
      -- the pseudo tag has another signature, so the search goes past it
      have hkept : (Tag.ofHeader header :: seen).eraseP (·.signature = signature) =
          Tag.ofHeader header :: seen.eraseP (·.signature = signature) := by
        apply List.eraseP_cons_of_neg
        exact fun heq => hsignature (of_decide_eq_true heq).symm
      rw [hkept]
      exact .header ..
  | bare h => exact .bare fun t ht => h t (List.mem_of_mem_eraseP ht)

end Shows

/-- A list with the pseudo tag of a new header shows what it showed before. -/
theorem shows_withHeader (header : HeaderBlock) (tags : List Tag) :
    Shows (some header) (withHeader header tags) (withoutHeader tags) := by
  cases tags with
  | nil => exact .header ..
  | cons first rest =>
      cases hfirst : first.isHeader with
      | false =>
          simp only [withHeader, withoutHeader, hfirst]
          exact .header ..
      | true =>
          simp only [withHeader, withoutHeader, hfirst]
          exact .header ..

/-! ## Reading -/

/-- The tags of a table were read from its container. -/
theorem isRead_of_mem_tagsFrom {data : Bytes} {preferred : Signature} {count index : Nat}
    (h : tag ∈ tagsFrom data preferred count index) : tag.IsRead := by
  induction count generalizing index with
  | zero => exact absurd h List.not_mem_nil
  | succ count ih =>
      simp only [tagsFrom] at h
      split at h
      · rcases List.mem_cons.mp h with rfl | hrest
        · exact .ofContainer ..
        · exact ih hrest
      -- the table ends early
      · exact absurd h List.not_mem_nil

theorem shows_readTags (p : Profile) : Shows p.header p.readTags (withoutHeader p.readTags) := by
  unfold readTags
  cases p.header with
  | none => exact .bare fun t ht => absurd ht List.not_mem_nil
  | some header =>
      rw [withoutHeader_ofHeader]
      exact .header ..

theorem isRead_of_mem_readTags {p : Profile} (h : tag ∈ withoutHeader p.readTags) :
    tag.IsRead := by
  unfold readTags at h
  cases hheader : p.header with
  | none =>
      rw [hheader] at h
      exact absurd h List.not_mem_nil
  | some header =>
      rw [hheader] at h
      simp only [withoutHeader_ofHeader] at h
      cases hraw : p.raw with
      | none =>
          rw [hraw] at h
          exact absurd h List.not_mem_nil
      | some data =>
          rw [hraw] at h
          exact isRead_of_mem_tagsFrom h

/-! ## Changes -/

section Changes

variable (p : Profile)

/-- The pseudo tag is brought in line in a list that is there. -/
theorem syncHeaderTag_of_some {header : HeaderBlock} {tags : List Tag}
    (hheader : p.header = some header) (hlist : p.tagList = some tags) :
    p.syncHeaderTag = { p with tagList := some (withHeader header tags) } := by
  simp only [syncHeaderTag, hheader, hlist]

theorem syncHeaderTag_of_none (h : p.header = none ∨ p.tagList = none) :
    p.syncHeaderTag = p := by
  unfold syncHeaderTag
  split
  · next header tags hheader hlist =>
      rw [hheader, hlist] at h
      rcases h with h | h <;> cases h
  · rfl

/-- Bringing the pseudo tag in line changes nothing but the list. -/
theorem syncHeaderTag_eq : p.syncHeaderTag = { p with tagList := p.syncHeaderTag.tagList } := by
  unfold syncHeaderTag
  split <;> rfl

@[simp] theorem header_syncHeaderTag : p.syncHeaderTag.header = p.header := by
  rw [syncHeaderTag_eq]

/-- Bringing the pseudo tag in line leaves the tags that are seen. -/
@[simp] theorem tags_syncHeaderTag : p.syncHeaderTag.tags = p.tags := by
  cases hheader : p.header with
  | none => rw [syncHeaderTag_of_none p (.inl hheader)]
  | some header =>
      cases hlist : p.tagList with
      | none => rw [syncHeaderTag_of_none p (.inr hlist)]
      | some tags =>
          rw [syncHeaderTag_of_some p hheader hlist, Profile.tags, Profile.tags, allTags, allTags,
            hlist, Option.getD_some, Option.getD_some]
          exact (shows_withHeader header tags).withoutHeader_eq

/-- A profile with a header shows its tags once the pseudo tag is in line; without a header it
does so when no pseudo tag is there. -/
theorem shows_syncHeaderTag (h : p.header = none → Shows none p.allTags p.tags) :
    Shows p.header p.syncHeaderTag.allTags p.tags := by
  cases hheader : p.header with
  | none =>
      rw [syncHeaderTag_of_none p (.inl hheader)]
      exact h hheader
  | some header =>
      cases hlist : p.tagList with
      | none =>
          -- the list is still to be read, and will start with the pseudo tag
          rw [syncHeaderTag_of_none p (.inr hlist), tags, allTags, hlist, Option.getD_none,
            ← hheader]
          exact shows_readTags p
      | some tags =>
          rw [syncHeaderTag_of_some p hheader hlist, Profile.tags, allTags, allTags, hlist,
            Option.getD_some, Option.getD_some]
          exact shows_withHeader header tags

/-- A tag that is not the header can be added, and the result is an insertion. -/
theorem addTag_ok_iff {q : Profile} {position : Option Nat} :
    p.addTag tag position = .ok q ↔
      tag.isHeader = false ∧ q = p.setTags (insertTag p.allTags tag position) := by
  unfold addTag
  split
  · next hheader =>
      constructor
      · intro h
        cases h
      · intro h
        rw [h.1] at hheader
        cases hheader
  · next hheader =>
      constructor
      · intro h
        exact ⟨Bool.eq_false_iff.mpr hheader, (Except.ok.inj h).symm⟩
      · intro h
        rw [h.2]
        rfl

/-- Removing a tag erases it when it is seen; the header and a tag that is not there are left. -/
theorem removeTag_eq (signature : Signature) :
    (signature ≠ Signature.header ∧ (p.removeTag signature).1.isSome ∧
      (p.removeTag signature).2 = p.setTags (p.allTags.eraseP (·.signature = signature))) ∨
    ((p.removeTag signature).1 = none ∧
      ((p.removeTag signature).2 = p ∨ (p.removeTag signature).2 = p.materialized)) := by
  unfold removeTag
  split
  · exact .inr ⟨rfl, .inl rfl⟩
  · next hsignature =>
      cases p.tag? signature with
      | none => exact .inr ⟨rfl, .inr rfl⟩
      | some tag => exact .inl ⟨hsignature, rfl, rfl⟩

end Changes

end IccProfile.Profile
