import IccProfile.Proofs.Catalog.Loading
import IccProfile.Proofs.Files.Times
import IccProfile.Proofs.Profile.Unchanged

/-!
# What a load leaves

A load that succeeds gives the profile of the bytes of its file and leaves the disk, or it
stores the identity in both, or in the profile alone when the file cannot be written (`Loads`,
`loads_of_load`). So the profile holds what the file holds afterwards, but for a repair that was
refused (`Loads.comesFrom`). The disk is later and has its other files as they were
(`Loads.later`, `Loads.entry_eq`). Unless the flags forbid it the stored ID of a profile of
version 4 or later is valid afterwards (`Loads.checkId_eq`), and where it is valid a load
changes nothing (`load_of_keepsId`).
-/

set_option autoImplicit false

namespace IccProfile.Profile

variable {d e : Disk} {path : Path} {flags : LoadFlags} {p : Profile} {data : Bytes}

theorem holds_ofFile (path : Path) (h : Accepted data) :
    (ofFile path data h.headerSize_le).Holds data :=
  (holds_fresh h).named (some path)

/-- A profile whose ID a load does not repair. -/
def KeepsId (flags : LoadFlags) (p : Profile) : Prop :=
  flags.noRepair = true ∨ p.version.major < 4 ∨ p.checkId = .valid

/-- Unchanged profiles of the same bytes are repaired alike. -/
theorem KeepsId.of_holds {q : Profile} (h : KeepsId flags p) (hp : p.Holds data)
    (hq : q.Holds data) : KeepsId flags q := by
  obtain ⟨hversion, -, hcheck⟩ := hp.agree hq
  rwa [KeepsId, hversion, hcheck]

/-- Whatever the flags are, a load does not repair an ID that it would not repair without any. -/
theorem KeepsId.of_default (h : KeepsId {} p) : KeepsId flags p := by
  rcases h with hforbidden | hkeeps
  · cases hforbidden
  · exact .inr hkeeps

/-- A load has to repair the ID of the file at a place, which cannot be written. -/
structure RepairRefused (d : Disk) (flags : LoadFlags) (place : Place) : Prop where
  locked : place ∈ d.locked
  needed : ∃ data time p, d.entry? place = some (.file data time) ∧ Holds p data ∧
    flags.accepts (data.getD 8 0) = true ∧ ¬ KeepsId flags p

/-- A repair that is refused under some flags is refused without any. -/
theorem RepairRefused.default {place : Place} (h : RepairRefused d flags place) :
    RepairRefused d {} place := by
  obtain ⟨hlocked, data, time, p, hfile, hholds, -, hrepairs⟩ := h
  exact ⟨hlocked, data, time, p, hfile, hholds, rfl, fun hkeeps => hrepairs hkeeps.of_default⟩

/-- Without locked places no repair is refused. -/
theorem not_repairRefused_of_unlocked (h : d.locked = []) (place : Place) :
    ¬ RepairRefused d flags place := by
  intro hrefused
  have hlocked := hrefused.locked
  rw [h] at hlocked
  exact List.not_mem_nil hlocked

/-- Bytes of a file whose ID is to be repaired, and the same bytes with the repaired ID. -/
def Unstored (content data : Bytes) : Prop :=
  (∃ q : Profile, q.Holds content ∧ ¬ KeepsId {} q) ∧
    data = (ProfileId.ofContent content).stamp content

/-- A file at a place stands for the bytes of a profile: it holds them, or where a repair may be
refused it holds what was to be repaired. -/
def Backs (refusing : Place → Prop) (place : Place) (content data : Bytes) : Prop :=
  content = data ∨ refusing place ∧ Unstored content data

/-- What a load that succeeds does with the disk. -/
inductive Loads (d : Disk) (path : Path) (flags : LoadFlags) (p : Profile) : Disk → Prop
  /-- The profile is as the file is. -/
  | kept {data : Bytes} (hread : d.read path = .ok data) (hholds : p.Holds data)
      (hkeeps : KeepsId flags p) : Loads d path flags p d
  /-- The identity is stored in the profile and in the file. -/
  | repaired {q : Profile} {data : Bytes} {time : Nat}
      (hplace : d.locate path = .ok (d.placeOf path))
      (hfile : d.entry? (d.placeOf path) = some (.file data time))
      (hfree : d.placeOf path ∉ d.locked) (hholds : q.Holds data) (hrepairs : ¬ KeepsId flags q)
      (heq : p = q.repairId) :
      Loads d path flags p (d.putFile (d.placeOf path) ((ProfileId.ofContent data).stamp data))
  /-- The identity is stored in the profile, and the file stays. -/
  | refused {q : Profile} {data : Bytes} (hread : d.read path = .ok data)
      (hrefused : RepairRefused d flags (d.placeOf path)) (hholds : q.Holds data)
      (hrepairs : ¬ KeepsId flags q) (heq : p = q.repairId) : Loads d path flags p d

theorem keepsId_iff :
    KeepsId flags p ↔
      (flags.noRepair || p.version.major < 4 || p.checkId.isValid) = true := by
  rw [KeepsId, Bool.or_eq_true, Bool.or_eq_true, decide_eq_true_eq, IdCheck.isValid_iff,
    or_assoc]

/-- A profile stands for bytes that are backed by the file at a path. -/
structure ComesFrom (refusing : Place → Prop) (d : Disk) (path : Path) (p : Profile)
    (content data : Bytes) : Prop where
  read_eq : d.read path = .ok content
  holds : p.Holds data
  backs : Backs refusing (d.placeOf path) content data

namespace Backs

variable {refusing : Place → Prop} {place : Place} {content : Bytes}

theorem mono {more : Place → Prop} (h : Backs refusing place content data)
    (hmore : refusing place → more place) : Backs more place content data :=
  h.imp_right fun ⟨hplace, hunstored⟩ => ⟨hmore hplace, hunstored⟩

/-- Where no repair is refused the file holds the bytes. -/
theorem eq (h : Backs refusing place content data) (hplace : ¬ refusing place) : content = data :=
  h.resolve_right fun hrefused => hplace hrefused.1

/-- The file has the version of the profile. -/
theorem major_eq (h : Backs refusing place content data) (hp : p.Holds data) :
    p.version.major = content.getD 8 0 := by
  rcases h with rfl | ⟨-, ⟨q, hq, -⟩, rfl⟩
  · exact hp.major_eq
  · rw [← (hp.agree hq.repairId).1, version_repairId, hq.major_eq]

end Backs

theorem ComesFrom.mono {refusing more : Place → Prop} {content : Bytes}
    (h : ComesFrom refusing d path p content data)
    (hmore : refusing (d.placeOf path) → more (d.placeOf path)) :
    ComesFrom more d path p content data :=
  ⟨h.read_eq, h.holds, h.backs.mono hmore⟩

/-- The repaired ID is valid, unless the identity stands for none. -/
theorem Holds.checkId_of_repairId {q : Profile} (hq : q.Holds data) (heq : p = q.repairId)
    (hzero : p.computedId.isZero = false) : p.checkId = .valid := by
  subst heq
  apply hq.checkId_repairId
  -- the stored ID does not count for the identity
  rwa [hq.repairId.computedId_eq, ProfileId.ofContent_stamp _ hq.accepted.headerSize_le] at hzero

/-- A load that succeeds is one of these. -/
theorem loads_of_load (h : load d path flags = (.ok p, e)) : Loads d path flags p e := by
  obtain ⟨place, data, time, hplace, hfile, haccepted, hversion⟩ := accepted_of_load_ok h
  obtain rfl := Disk.placeOf_of_locate hplace
  rw [load_of_file hplace hfile haccepted hversion] at h
  split at h
  · next hkeeps =>
      cases h
      exact .kept (Disk.read_ok_iff.mpr ⟨_, time, hplace, hfile⟩) (holds_ofFile path haccepted)
        (keepsId_iff.mpr hkeeps)
  · next hkeeps =>
      have hholds := holds_ofFile path haccepted
      have hrepairs : ¬ KeepsId flags (ofFile path data haccepted.headerSize_le) :=
        fun hkept => hkeeps (keepsId_iff.mp hkept)
      cases h
      split
      · next hlocked =>
          exact .refused (Disk.read_ok_iff.mpr ⟨_, time, hplace, hfile⟩)
            ⟨hlocked, data, time, _, hfile, hholds, hversion, hrepairs⟩ hholds hrepairs rfl
      · next hfree => exact .repaired hplace hfile hfree hholds hrepairs rfl

/-- A file whose ID is not to be repaired is loaded as it is. -/
theorem load_of_keepsId (hread : d.read path = .ok data) (h : Accepted data)
    (hversion : flags.accepts (data.getD 8 0) = true)
    (hkeeps : KeepsId flags (ofFile path data h.headerSize_le)) :
    load d path flags = (.ok (ofFile path data h.headerSize_le), d) := by
  obtain ⟨place, time, hplace, hfile⟩ := Disk.read_ok_iff.mp hread
  rw [load_of_file hplace hfile h hversion, if_pos (keepsId_iff.mp hkeeps)]

/-- A file that holds what is to be repaired is loaded as the repaired profile. -/
theorem load_of_unstored {content : Bytes} (hread : d.read path = .ok content)
    (h : Unstored content data) : ∃ q, (load d path {}).1 = .ok q ∧ q.Holds data := by
  obtain ⟨⟨q, hholds, hrepairs⟩, rfl⟩ := h
  have hfile := holds_ofFile path hholds.accepted
  have hneeded : ¬ KeepsId {} (ofFile path content hholds.accepted.headerSize_le) :=
    fun hkeeps => hrepairs (hkeeps.of_holds hfile hholds)
  obtain ⟨place, time, hplace, hentry⟩ := Disk.read_ok_iff.mp hread
  rw [load_of_file hplace hentry hholds.accepted rfl,
    if_neg fun hkeeps => hneeded (keepsId_iff.mpr hkeeps)]
  exact ⟨_, rfl, hfile.repairId⟩

/-- Whether a load succeeds, and what it gives, depends on the bytes of the file only. -/
theorem fst_load_congr {d e : Disk} (h : e.read path = d.read path) :
    (load e path flags).1 = (load d path flags).1 := by
  unfold load
  rw [h]
  cases d.read path with
  | error fault => rfl
  | ok data =>
      simp only
      cases ofBytesWith flags data with
      | error error => rfl
      | ok profile =>
          simp only
          split
          · rfl
          · split <;> split <;> rfl

namespace Loads

/-- The profile holds what the file holds afterwards, but for a repair that was refused. -/
theorem comesFrom (h : Loads d path flags p e) :
    ∃ content data, ComesFrom (RepairRefused d flags) e path p content data := by
  cases h with
  | kept hread hholds _ => exact ⟨_, _, hread, hholds, .inl rfl⟩
  | repaired hplace hfile hfree hholds _ heq =>
      subst heq
      exact ⟨_, _, (Disk.write_of_file hplace hfile hfree _).2.1, hholds.repairId, .inl rfl⟩
  | refused hread hrefused hholds hrepairs heq =>
      subst heq
      exact ⟨_, _, hread, hholds.repairId, .inr
        ⟨hrefused, ⟨_, hholds, fun hkeeps => hrepairs hkeeps.of_default⟩, rfl⟩⟩

/-- The disk is later. -/
theorem later (h : Loads d path flags p e) : d.Later e := by
  cases h with
  | kept => exact Disk.later_refl d
  | repaired _ hfile => exact Disk.later_putFile (Disk.ne_nil_of_file hfile) d _
  | refused => exact Disk.later_refl d

/-- Directories and files stay where they are. -/
theorem sameShape (h : Loads d path flags p e) : Disk.SameShape d e := by
  cases h with
  | kept => exact Disk.sameShape_refl d
  | repaired _ hfile => exact Disk.sameShape_putFile hfile _
  | refused => exact Disk.sameShape_refl d

/-- It holds what the file holds when no repair was refused. -/
theorem read_eq (h : Loads d path flags p e)
    (hstored : ¬ RepairRefused d flags (d.placeOf path)) :
    ∃ data, e.read path = .ok data ∧ p.Holds data := by
  obtain ⟨content, data, hfrom⟩ := h.comesFrom
  rw [← Disk.placeOf_eq_of_working h.sameShape.working_eq] at hstored
  obtain rfl := hfrom.backs.eq hstored
  exact ⟨content, hfrom.read_eq, hfrom.holds⟩

/-- Other places stay as they are. -/
theorem entry_eq (h : Loads d path flags p e) {place : Place} (hplace : place ≠ d.placeOf path) :
    e.entry? place = d.entry? place := by
  cases h with
  | kept => rfl
  | repaired _ hfile => rw [Disk.entry_putFile (Disk.ne_nil_of_file hfile), if_neg hplace]
  | refused => rfl

/-- A repair that is refused afterwards was refused before. -/
theorem repairRefused {place : Place} {other : LoadFlags} (h : Loads d path flags p e)
    (hrefused : RepairRefused e other place) : RepairRefused d other place := by
  cases h with
  | kept => exact hrefused
  | repaired _ hfile hfree =>
      have hlocked : place ∈ d.locked := hrefused.locked
      have hne : place ≠ d.placeOf path := by
        rintro rfl
        exact hfree hlocked
      obtain ⟨data, time, q, hentry, hneeded⟩ := hrefused.needed
      rw [Disk.entry_putFile (Disk.ne_nil_of_file hfile), if_neg hne] at hentry
      exact ⟨hlocked, data, time, q, hentry, hneeded⟩
  | refused => exact hrefused

/-- The stored ID is valid when it is to be repaired, unless the identity stands for none. -/
theorem checkId_eq (h : Loads d path flags p e) (hrepair : flags.noRepair = false)
    (hmajor : 4 ≤ p.version.major) (hzero : p.computedId.isZero = false) : p.checkId = .valid := by
  cases h with
  | kept _ hholds hkeeps =>
      rcases hkeeps with hforbidden | hold | hvalid
      · rw [hrepair] at hforbidden
        cases hforbidden
      · exact absurd hold (UInt8.not_lt.mpr hmajor)
      · exact hvalid
  | repaired _ _ _ hholds _ heq => exact hholds.checkId_of_repairId heq hzero
  | refused _ _ hholds _ heq => exact hholds.checkId_of_repairId heq hzero

/-- A file whose stored ID is valid is read as before, whatever is loaded. -/
theorem read_of_valid {q : Profile} {other : Path} {data : Bytes} (h : Loads d path flags p e)
    (hread : d.read other = .ok data) (hholds : q.Holds data) (hvalid : q.checkId = .valid) :
    e.read other = .ok data := by
  cases h with
  | kept => exact hread
  | @repaired before held _ hplace hfile hfree hbefore hrepairs heq =>
      obtain ⟨place, time, hother, hdata⟩ := Disk.read_ok_iff.mp hread
      have hne : place ≠ d.placeOf path := by
        rintro rfl
        rw [hfile] at hdata
        cases hdata
        exact hrepairs (.inr (.inr ((hholds.agree hbefore).2.2.trans hvalid)))
      refine Disk.read_ok_iff.mpr ⟨place, time, ?_, ?_⟩
      · exact ((Disk.sameShape_putFile hfile _).locate_eq other).trans hother
      · rw [Disk.entry_putFile (Disk.ne_nil_of_file hfile), if_neg hne, hdata]
  | refused => exact hread

end Loads

end IccProfile.Profile
