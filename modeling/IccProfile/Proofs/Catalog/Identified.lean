import IccProfile.Proofs.Catalog.Cache
import IccProfile.Proofs.Catalog.Complete
import IccProfile.Proofs.Catalog.Lookup

/-!
# Files by their identity

A search for an identity opens the known files one after the other. They have different
names, so the repair of one of them does not affect what the others are answered with, and
the search ends at the first that would be answered with this identity alone (`fst_ofId`).
So every known file is found by the identity that it is answered with (`finds_of_answer?`).

This is the identity of its bytes, unless a load stores the computed ID in place of a wrong
one (`Loads.id_eq`). `found_by_id` says which identity it is in every catalog, and
`lost_by_stored_id` that a wrong ID is of no use once it was replaced.
-/

set_option autoImplicit false

namespace IccProfile

namespace Profile

variable {d e : Disk} {path : Path} {flags : LoadFlags} {p q : Profile} {data : Bytes}

/-- A profile of version 4 or later whose stored ID is not the computed one. -/
def HasWrongId (p : Profile) : Prop :=
  4 ≤ p.version.major ∧ ∃ stored, p.embeddedId? = some stored ∧ stored ≠ p.computedId

/-- A wrong ID is repaired. -/
theorem KeepsId.not_hasWrongId (h : KeepsId {} p) : ¬ p.HasWrongId := by
  rintro ⟨hmajor, stored, hstored, hne⟩
  rcases h with hforbidden | hold | hvalid
  · cases hforbidden
  · exact absurd hold (UInt8.not_lt.mpr hmajor)
  · rw [checkId, IdCheck.compare_eq_valid_iff, hstored, Option.some.injEq] at hvalid
    exact hne hvalid

/-- Where an ID is repaired that is not wrong, there was none, and the identity is the computed
one. -/
theorem Holds.id_eq_computedId (h : p.Holds data) (hrepairs : ¬ KeepsId {} p)
    (hright : ¬ p.HasWrongId) : p.id = p.computedId := by
  have hmajor : ¬ p.version.major < 4 := fun hold => hrepairs (.inr (.inl hold))
  have hinvalid : p.checkId ≠ .valid := fun hvalid => hrepairs (.inr (.inr hvalid))
  have hnone : p.embeddedId? = none := by
    cases hstored : p.embeddedId? with
    | none => rfl
    | some stored =>
        refine absurd ⟨UInt8.not_lt.mp hmajor, stored, hstored, fun heq => ?_⟩ hright
        rw [checkId, Ne, IdCheck.compare_eq_valid_iff, hstored, heq] at hinvalid
        exact hinvalid rfl
  rw [h.id_eq, ← h.embeddedId?_eq, hnone, h.computedId_eq]
  rfl

/-- A repaired profile has the computed identity, and its own one unless its ID was wrong. -/
theorem Holds.id_repaired {before : Profile} (hq : q.Holds data) (hbefore : before.Holds data)
    (hrepairs : ¬ KeepsId {} before) :
    before.repairId.id = q.computedId ∧ (¬ q.HasWrongId → before.repairId.id = q.id) := by
  have hid : before.repairId.id = q.computedId := by
    rw [id_repairId, hbefore.computedId_eq, hq.computedId_eq]
  refine ⟨hid, fun hright => ?_⟩
  have hneeded : ¬ KeepsId {} q := fun hkeeps => hrepairs (hkeeps.of_holds hq hbefore)
  rw [hid, hq.id_eq_computedId hneeded hright]

/-- A profile that is backed by a file has the identity of the bytes in it, or where their ID is
wrong the computed one. -/
theorem Backs.id_cases {refusing : Place → Prop} {place : Place} {content : Bytes}
    (h : Backs refusing place content data) (hp : p.Holds data) (hq : q.Holds content) :
    p.id = q.id ∨ refusing place ∧ q.HasWrongId ∧ p.id = q.computedId := by
  rcases h with rfl | ⟨hrefused, ⟨before, hbefore, hrepairs⟩, rfl⟩
  · exact .inl (hq.agree hp).2.1
  · obtain ⟨hcomputed, hown⟩ := hq.id_repaired hbefore hrepairs
    have hid : p.id = before.repairId.id := (hbefore.repairId.agree hp).2.1
    rw [hid]
    by_cases hwrong : q.HasWrongId
    · exact .inr ⟨hrefused, hwrong, hcomputed⟩
    · exact .inl (hown hwrong)

/-- A file that is loaded for a repair has the identity of its bytes, or the computed one when its
ID was wrong. -/
theorem Loads.id_eq (h : Loads d path {} p e) (hread : d.read path = .ok data)
    (hq : q.Holds data) :
    (¬ q.HasWrongId → p.id = q.id) ∧ (q.HasWrongId → p.id = q.computedId) := by
  cases h with
  | kept hbytes hholds hkeeps =>
      obtain rfl := Except.ok.inj (hread.symm.trans hbytes)
      refine ⟨fun _ => (hq.agree hholds).2.1, fun hwrong => ?_⟩
      exact absurd hwrong (hkeeps.of_holds hholds hq).not_hasWrongId
  | repaired hplace hfile _ hholds hrepairs heq =>
      have hbytes := Disk.read_ok_iff.mpr ⟨_, _, hplace, hfile⟩
      obtain rfl := Except.ok.inj (hread.symm.trans hbytes)
      obtain ⟨hcomputed, hown⟩ := hq.id_repaired hholds hrepairs
      rw [heq]
      exact ⟨hown, fun _ => hcomputed⟩
  | refused hbytes _ hholds hrepairs heq =>
      obtain rfl := Except.ok.inj (hread.symm.trans hbytes)
      obtain ⟨hcomputed, hown⟩ := hq.id_repaired hholds hrepairs
      rw [heq]
      exact ⟨hown, fun _ => hcomputed⟩

/-- An accepted file is loaded when the flags accept its version. -/
theorem exists_load_of_accepts (hread : d.read path = .ok data) (h : Accepted data)
    (hversion : flags.accepts (data.getD 8 0) = true) :
    ∃ p e, load d path flags = (.ok p, e) := by
  obtain ⟨place, time, hplace, hfile⟩ := Disk.read_ok_iff.mp hread
  rw [load_of_file hplace hfile h hversion]
  split <;> exact ⟨_, _, rfl⟩

/-- Without flags every accepted file is loaded. -/
theorem exists_load (hread : d.read path = .ok data) (h : Accepted data) :
    ∃ p e, load d path {} = (.ok p, e) :=
  exists_load_of_accepts hread h rfl

end Profile

namespace Workspace

open Catalog (Reached Tidy)

variable {refusing : Place → Prop} {w : Workspace} {path file : Path} {flags : LoadFlags}
  {id : ProfileId} {p q : Profile} {held : Loaded} {data : Bytes}

/-! ## Searching -/

/-- The known profile of an identity is the first of the files that is answered with it. -/
theorem fst_ofId (h : Tidy w.catalog) (id : ProfileId) (flags : LoadFlags) :
    (w.ofId id flags).1.map (·.profile) =
      (w.files.1.filterMap (w.answer? flags)).find? (·.id = id) := by
  rw [← w.answer?_files, ← map_findFirst (differentNames_files h)]
  rfl

/-- An identity leads to a known profile that has it. -/
def Finds (w : Workspace) (id : ProfileId) : Prop :=
  ∃ loaded v, w.ofId id {} = (some loaded, v) ∧ loaded.profile.id = id

/-- A known file is found by the identity that it is answered with. -/
theorem finds_of_answer? (h : Tidy w.catalog) (hpath : path ∈ w.files.1)
    (hanswer : w.answer? {} path = some p) : w.Finds p.id := by
  have hanswered : p ∈ w.files.1.filterMap (w.answer? {}) :=
    List.mem_filterMap.mpr ⟨path, hpath, hanswer⟩
  cases hfirst : (w.files.1.filterMap (w.answer? {})).find? (·.id = p.id) with
  | none => exact absurd (decide_eq_true rfl) (List.find?_eq_none.mp hfirst p hanswered)
  | some first =>
      have hid := List.find?_some hfirst
      rw [← fst_ofId h] at hfirst
      obtain ⟨loaded, hloaded, rfl⟩ := Option.map_eq_some_iff.mp hfirst
      exact ⟨loaded, _, Prod.ext hloaded rfl, of_decide_eq_true hid⟩

/-- A file is answered with the cached profile that serves for it, if the flags accept it. -/
theorem answer?_of_accepts (hfile : w.resolve? path = some file)
    (hhit : w.catalog.hit? w.disk file flags = some held)
    (haccepts : flags.accepts held.profile.version.major = true) :
    w.answer? flags path = some held.profile := by
  rw [answer?, openProfile_of_resolve? hfile, hhit]
  simp only [haccepts, if_true]
  rfl

/-- Without flags it always is. -/
theorem answer?_of_hit? (hfile : w.resolve? path = some file)
    (hhit : w.catalog.hit? w.disk file {} = some held) :
    w.answer? {} path = some held.profile :=
  answer?_of_accepts hfile hhit rfl

/-- Else it is loaded. -/
theorem answer?_of_load {e : Disk} (hfile : w.resolve? path = some file)
    (hhit : w.catalog.hit? w.disk file flags = none)
    (hload : Profile.load w.disk file flags = (.ok p, e)) : w.answer? flags path = some p := by
  rw [answer?, openProfile_of_resolve? hfile, hhit]
  simp only [load, hload]
  rfl

/-- With regard to the time of its file a name is answered when the file is accepted. -/
theorem Trusted.exists_answer? (h : Trusted refusing w) (hskip : flags.skipTimeCheck = false)
    (hfile : w.resolve? path = some file) (hread : w.disk.read file = .ok data)
    (haccepted : Profile.Accepted data) (hversion : flags.accepts (data.getD 8 0) = true) :
    ∃ p, w.answer? flags path = some p := by
  cases hhit : w.catalog.hit? w.disk file flags with
  | some held =>
      obtain ⟨content, hfrom⟩ := h.comesFrom_of_hit? hskip hread hhit
      rw [← hfrom.backs.major_eq hfrom.holds] at hversion
      exact ⟨held.profile, answer?_of_accepts hfile hhit hversion⟩
  | none =>
      obtain ⟨p, e, hload⟩ := Profile.exists_load_of_accepts hread haccepted hversion
      exact ⟨p, answer?_of_load hfile hhit hload⟩

/-! ## Identities -/

/-- The identities by which a known file is found that holds the profile `q`. -/
structure FoundById (w : Workspace) (file : Path) (q : Profile) : Prop where
  /-- Its own identity, unless it has a wrong ID. -/
  own : (∃ refusing, Used refusing w) ∨ w.catalog.hit? w.disk file {} = none →
    ¬ q.HasWrongId → w.Finds q.id
  /-- The computed identity, when it has to be loaded. -/
  repaired : w.catalog.hit? w.disk file {} = none → q.HasWrongId → w.Finds q.computedId
  /-- Its own identity, as long as it is cached with the wrong ID; it is cached with the computed
  one only where a repair may have been refused. -/
  unrepaired : ∀ refusing, Used refusing w → w.catalog.hit? w.disk file {} ≠ none →
    q.HasWrongId → w.Finds q.id ∨ refusing (w.disk.placeOf file) ∧ w.Finds q.computedId
  /-- The identity of the cached profile, also when this is not that of the file. -/
  cached : ∀ held, w.catalog.hit? w.disk file {} = some held → w.Finds held.profile.id

/-- Each known file that holds a profile is found by its identity. Where this is the wrong ID of a
profile of version 4 or later that is not cached, the file is found by the ID that replaces it. -/
theorem found_by_id (hw : Reached w.catalog) (hpath : path ∈ w.files.1)
    (hfile : w.resolve? path = some file) (hread : w.disk.read file = .ok data)
    (hq : Profile.ofBytes data = .ok q) : FoundById w file q := by
  obtain ⟨haccepted, -, rfl⟩ := Profile.ofBytesWith_ok_iff.mp hq
  have hholds := Profile.holds_fresh haccepted
  have hcached : ∀ held, w.catalog.hit? w.disk file {} = some held → w.Finds held.profile.id :=
    fun held hhit => finds_of_answer? hw.tidy hpath (answer?_of_hit? hfile hhit)
  -- a cached profile that can be trusted has the identity of the bytes, or repairs a wrong one
  have hused : ∀ refusing, Used refusing w → w.catalog.hit? w.disk file {} ≠ none →
      w.Finds (Profile.fresh data haccepted.headerSize_le).id ∨
        refusing (w.disk.placeOf file) ∧
          (Profile.fresh data haccepted.headerSize_le).HasWrongId ∧
          w.Finds (Profile.fresh data haccepted.headerSize_le).computedId := by
    intro refusing huse hhit
    obtain ⟨held, hheld⟩ := Option.ne_none_iff_exists'.mp hhit
    have hfinds := hcached held hheld
    obtain ⟨content, hfrom⟩ := huse.trusted.comesFrom_of_hit? rfl hread hheld
    rcases hfrom.backs.id_cases hfrom.holds hholds with hid | ⟨hrefused, hwrong, hid⟩
    · rw [hid] at hfinds
      exact .inl hfinds
    · rw [hid] at hfinds
      exact .inr ⟨hrefused, hwrong, hfinds⟩
  obtain ⟨p, e, hload⟩ := Profile.exists_load hread haccepted
  obtain ⟨hright, hwrong⟩ := (Profile.loads_of_load hload).id_eq hread hholds
  have hloaded : w.catalog.hit? w.disk file {} = none → w.Finds p.id :=
    fun hhit => finds_of_answer? hw.tidy hpath (answer?_of_load hfile hhit hload)
  constructor
  case own =>
      intro hstate hkept
      by_cases hhit : w.catalog.hit? w.disk file {} = none
      · rw [← hright hkept]
        exact hloaded hhit
      · obtain ⟨refusing, huse⟩ := hstate.resolve_right hhit
        exact (hused refusing huse hhit).resolve_right fun hfound => hkept hfound.2.1
  case repaired =>
      intro hhit hreplaced
      rw [← hwrong hreplaced]
      exact hloaded hhit
  case unrepaired =>
      intro refusing huse hhit _
      exact (hused refusing huse hhit).imp_right fun ⟨hrefused, _, hfinds⟩ => ⟨hrefused, hfinds⟩
  case cached => exact hcached

/-- An ID that is the identity of nothing here. -/
def strayId : ProfileId := ⟨List.replicate 16 1, rfl⟩

/-- A profile of version 4 with a wrong ID. -/
def mislabeled : Bytes := strayId.stamp unrepaired

theorem accepted_mislabeled : Profile.Accepted mislabeled :=
  (Profile.accepted_stamp_iff strayId).mpr accepted_unrepaired

/-- A directory with this profile, which is not known yet. -/
def attic : Workspace where
  catalog := { paths := ⟨[⟨"/p"⟩]⟩ }
  disk :=
    { entries := [(["p"], .directory), (["p", "a.icc"], .file mislabeled 1)]
      working := []
      clock := 1 }

theorem used_attic : Used (fun _ => False) attic :=
  .start rfl (Disk.timely_of_entries (by decide +kernel)) (refusesAt_of_unlocked rfl)

/-- The profile of version 4 as it is read. -/
def mislabeledProfile : Profile := Profile.fresh mislabeled accepted_mislabeled.headerSize_le

theorem ofBytes_mislabeled : Profile.ofBytes mislabeled = .ok mislabeledProfile :=
  Profile.ofBytes_of_accepted accepted_mislabeled

theorem embeddedId?_mislabeled : mislabeledProfile.embeddedId? = some strayId := by decide +kernel

theorem hasWrongId_mislabeled : mislabeledProfile.HasWrongId :=
  ⟨by decide +kernel, strayId, embeddedId?_mislabeled, by decide +kernel⟩

theorem found_by_id_attic :
    attic.Finds mislabeledProfile.computedId ∧ drawer.Finds unnamed.id := by
  have hattic : ⟨"/p/a.icc"⟩ ∈ attic.files.1 := by decide +kernel
  have hdrawer : ⟨"/p/a.icc"⟩ ∈ drawer.files.1 := by decide +kernel
  have hright : ¬ unnamed.HasWrongId := fun hwrong => absurd hwrong.1 (by decide +kernel)
  have hnewer : FoundById attic ⟨"/p/a.icc"⟩ mislabeledProfile :=
    found_by_id (.start rfl rfl) hattic rfl rfl ofBytes_mislabeled
  have holder : FoundById drawer ⟨"/p/a.icc"⟩ unnamed :=
    found_by_id (.start rfl rfl) hdrawer rfl rfl
      (Profile.ofBytes_of_accepted Profile.accepted_shortest)
  exact ⟨hnewer.repaired rfl hasWrongId_mislabeled, holder.own (.inl ⟨_, used_drawer⟩) hright⟩

/-- The search gives the profile its computed ID, so it is not found by the ID that its file had
before. -/
theorem lost_by_stored_id :
    Used (fun _ => False) attic ∧ Reached attic.catalog ∧ ⟨"/p/a.icc"⟩ ∈ attic.files.1 ∧
      attic.disk.read ⟨"/p/a.icc"⟩ = .ok mislabeled ∧
      Profile.ofBytes mislabeled = .ok mislabeledProfile ∧
      (attic.ofId mislabeledProfile.id {}).1 = none := by
  refine ⟨used_attic, .start rfl rfl, ?_, rfl, ofBytes_mislabeled, ?_⟩ <;> decide +kernel

end Workspace

end IccProfile
