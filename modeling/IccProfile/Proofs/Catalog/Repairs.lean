import IccProfile.Proofs.Catalog.Cache
import IccProfile.Proofs.Catalog.Loaded

/-!
# Repairs behind the cache

A load stores the identity in a file of version 4 or later whose ID is missing or wrong. The
cache asks for the version of what it answers with and not for its ID, so it passes on what a
load that was not to repair has left there (`unrepaired_from_cache`). No other calls leave
such a profile (`KeepsUnrepaired`): in a workspace without them the cached profiles of a path
are repaired, and their files hold them unless the repair was refused (`RepairedAt`,
`repairedAt_afterOpening`). What is opened then is repaired as it would be without the cache
(`repaired_after_opening`).
-/

set_option autoImplicit false

namespace IccProfile.Workspace

open Profile (Holds Loads RepairRefused)

variable {w : Workspace} {d e : Disk} {path own name : Path} {flags : LoadFlags} {p : Profile}
  {data : Bytes}

/-- The workspace after names were opened one after the other. -/
def afterOpening (w : Workspace) (calls : List (Path × LoadFlags)) : Workspace :=
  calls.foldl (fun w call => (w.openProfile call.1 call.2).2) w

/-- Whether a call may leave a profile of a path in the cache without a look at its ID. -/
def KeepsUnrepaired (w : Workspace) (path : Path) (call : Path × LoadFlags) : Prop :=
  call.2.noRepair = true ∧ call.2.noCacheWrite = false ∧
    ∃ own, w.resolve? call.1 = some own ∧ own.same path = true

/-- A profile has a valid ID and is what its file holds. -/
structure Repaired (d : Disk) (path : Path) (p : Profile) (data : Bytes) : Prop where
  read_eq : d.read path = .ok data
  holds : p.Holds data
  checkId_eq : p.checkId = .valid
  /-- The file carries the ID. -/
  embedded?_eq : ProfileId.embedded? (data.take headerSize) = some p.computedId

/-- A profile of version 4 or later is repaired, unless its identity stands for none. -/
def IsRepaired (d : Disk) (path : Path) (p : Profile) : Prop :=
  4 ≤ p.version.major → p.computedId.isZero = false → ∃ data, Repaired d path p data

/-- The file of a path can be written or needs no repair. -/
def Repairable (d : Disk) (path : Path) : Prop := ¬ RepairRefused d {} (d.placeOf path)

/-- The cached profiles of a path are repaired. -/
def RepairedAt (w : Workspace) (path : Path) : Prop :=
  ∀ entry ∈ w.catalog.cache, entry.path.same path = true →
    IsRepaired w.disk entry.path entry.loaded.profile

/-! ## Loads -/

theorem repaired_of_valid (hread : d.read path = .ok data) (hholds : p.Holds data)
    (hvalid : p.checkId = .valid) : Repaired d path p data := by
  refine ⟨hread, hholds, hvalid, ?_⟩
  rw [Profile.checkId, IdCheck.compare_eq_valid_iff] at hvalid
  rw [← hholds.embeddedId?_eq, hvalid]

/-- A load that is to repair gives a repaired profile. -/
theorem isRepaired_of_loads (h : Loads d path flags p e) (hrepair : flags.noRepair = false)
    (hstored : Repairable d path) : IsRepaired e path p := by
  intro hmajor hzero
  obtain ⟨data, hread, hholds⟩ := h.read_eq fun hrefused => hstored hrefused.default
  exact ⟨data, repaired_of_valid hread hholds (h.checkId_eq hrepair hmajor hzero)⟩

/-- Loads leave a repaired profile what its file holds. -/
theorem Repaired.loads {q : Profile} (h : Repaired d own q data) (hloads : Loads d path flags p e) :
    Repaired e own q data :=
  repaired_of_valid (hloads.read_of_valid h.read_eq h.holds h.checkId_eq) h.holds h.checkId_eq

/-- A file stays repairable, whatever is opened. -/
theorem Repairable.openProfile (h : Repairable w.disk path) (name : Path) (flags : LoadFlags) :
    Repairable (w.openProfile name flags).2.disk path := by
  rcases w.snd_openProfile name flags with heq | ⟨own, profile, disk, hprofile, heq⟩
  · rwa [heq]
  · have hloads := Profile.loads_of_load hprofile
    rw [heq, Repairable, Disk.placeOf_eq_of_working hloads.sameShape.working_eq]
    exact fun hrefused => h (hloads.repairRefused hrefused)

theorem Repairable.afterOpening (h : Repairable w.disk path) (calls : List (Path × LoadFlags)) :
    Repairable (w.afterOpening calls).disk path := by
  induction calls generalizing w with
  | nil => exact h
  | cons call rest ih => exact ih (h.openProfile call.1 call.2)

/-! ## The cache -/

theorem RepairedAt.of_loads {v : Workspace} (h : RepairedAt w path)
    (hloads : Loads w.disk own flags p v.disk)
    (hcache : ∀ entry ∈ v.catalog.cache, entry ∈ w.catalog.cache ∨
      (entry.path.same path = true → IsRepaired v.disk entry.path entry.loaded.profile)) :
    RepairedAt v path := by
  intro entry hentry hsame
  rcases hcache entry hentry with hkept | hnew
  · intro hmajor hzero
    obtain ⟨data, hrepaired⟩ := h entry hkept hsame hmajor hzero
    exact ⟨data, hrepaired.loads hloads⟩
  · exact hnew hsame

/-- A call leaves the cached profiles of a path repaired, unless it may leave another one. -/
theorem RepairedAt.openProfile (h : RepairedAt w path) (hstored : Repairable w.disk path)
    (hcall : ¬ KeepsUnrepaired w path (name, flags)) :
    RepairedAt (w.openProfile name flags).2 path := by
  rcases w.openProfile_cases name flags with ⟨error, heq⟩ | ⟨own, hown, hhit | hload⟩
  · rw [heq]
    exact h
  · obtain ⟨entry, -, -, -, heq⟩ := hhit
    rw [heq]
    exact h
  · obtain ⟨profile, disk, -, hprofile, heq⟩ := hload
    have hloads := Profile.loads_of_load hprofile
    rw [heq]
    refine h.of_loads hloads ?_
    intro entry hentry
    cases hwrite : flags.noCacheWrite with
    | true =>
        rw [w.cache_catalogAfter own flags hwrite] at hentry
        exact .inl hentry
    | false =>
        rcases w.mem_cache_catalogAfter own flags hentry with hkept | rfl
        · exact .inl hkept
        · refine .inr fun hsame => isRepaired_of_loads hloads ?_ ?_
          · cases hrepair : flags.noRepair with
            | false => rfl
            | true => exact absurd ⟨hrepair, hwrite, own, hown, hsame⟩ hcall
          · rwa [Repairable, Disk.placeOf_eq_of_same _ hsame]

/-- Calls leave the cached profiles of a path repaired, unless one of them may leave another
one. -/
theorem repairedAt_afterOpening {calls : List (Path × LoadFlags)} (h : RepairedAt w path)
    (hstored : Repairable w.disk path)
    (hcalls : ∀ call ∈ calls, ¬ KeepsUnrepaired w path call) :
    RepairedAt (w.afterOpening calls) path := by
  induction calls generalizing w with
  | nil => exact h
  | cons call rest ih =>
      refine ih (h.openProfile hstored (hcalls call List.mem_cons_self))
        (hstored.openProfile call.1 call.2) ?_
      -- the names are resolved as before
      intro other hother hkeeps
      refine hcalls other (List.mem_cons_of_mem call hother) ?_
      obtain ⟨hrepair, hwrite, own, hown, hsame⟩ := hkeeps
      rw [w.resolve?_openProfile call.1 call.2] at hown
      exact ⟨hrepair, hwrite, own, hown, hsame⟩

/-! ## Answers -/

/-- A repaired file is opened without the cache as what it holds. -/
theorem openProfile_of_repaired (h : Repaired w.disk path p data)
    (hname : w.resolve? name = some path) (haccepts : flags.accepts p.version.major = true)
    (hcache : flags.noCacheRead = true) :
    ∃ loaded v, w.openProfile name flags = (.ok loaded, v) ∧
      Repaired v.disk path loaded.profile data := by
  have hfile := Profile.holds_ofFile path h.holds.accepted
  have hvalid : (Profile.ofFile path data h.holds.accepted.headerSize_le).checkId = .valid :=
    (h.holds.agree hfile).2.2.trans h.checkId_eq
  rw [h.holds.major_eq] at haccepts
  have hload := Profile.load_of_keepsId h.read_eq h.holds.accepted haccepts (.inr (.inr hvalid))
  rw [openProfile_of_noCacheRead hname hcache, load, hload]
  exact ⟨_, _, rfl, repaired_of_valid h.read_eq hfile hvalid⟩

/-- A cached profile that is repaired in its file is so in the file that it serves for. -/
theorem Repaired.of_same (h : Repaired d own p data) (hsame : own.same path = true)
    (hfile : d.isFile path = true) : Repaired d path p data := by
  refine ⟨?_, h.holds, h.checkId_eq, h.embedded?_eq⟩
  rw [← Disk.read_eq_of_same hsame (Disk.isFile_of_read h.read_eq) hfile, h.read_eq]

/-- A load that is to repair gives a repaired profile, and the same one without the cache. -/
theorem repaired_of_load (hload : Profile.load w.disk path flags = (.ok p, e))
    (hname : w.resolve? name = some path) (hrepair : flags.noRepair = false)
    (hstored : Repairable w.disk path) (hmajor : 4 ≤ p.version.major)
    (hzero : p.computedId.isZero = false) :
    ∃ data, Repaired e path p data ∧
      ∃ loaded v, w.openProfile name { flags with noCacheRead := true } = (.ok loaded, v) ∧
        Repaired v.disk path loaded.profile data := by
  obtain ⟨data, hrepaired⟩ :=
    isRepaired_of_loads (Profile.loads_of_load hload) hrepair hstored hmajor hzero
  have hagain : Profile.load w.disk path { flags with noCacheRead := true } = (.ok p, e) := hload
  rw [openProfile_of_noCacheRead hname rfl, load, hagain]
  exact ⟨data, hrepaired, _, _, rfl, hrepaired⟩

theorem resolve?_afterOpening (w : Workspace) (calls : List (Path × LoadFlags)) (name : Path) :
    (w.afterOpening calls).resolve? name = w.resolve? name := by
  induction calls generalizing w with
  | nil => rfl
  | cons call rest ih => exact (ih _).trans (w.resolve?_openProfile call.1 call.2 name)

/-- After names were opened, none of them in a way that leaves a profile of the same path in the
cache without a look at its ID, a name that is opened for a repair gives a repaired profile,
and the same one as without the cache, if its file can be written or needs no repair. -/
theorem repaired_after_opening {v : Workspace} {calls : List (Path × LoadFlags)} {loaded : Loaded}
    (hstart : w.catalog.cache = [])
    (hopen : (w.afterOpening calls).openProfile name flags = (.ok loaded, v))
    (hrepair : flags.noRepair = false) (hmajor : 4 ≤ loaded.profile.version.major)
    (hzero : loaded.profile.computedId.isZero = false)
    (hstored : ∀ path, w.resolve? name = some path → Repairable w.disk path)
    (hcalls : flags.noCacheRead = true ∨ ∀ path, w.resolve? name = some path →
      ∀ call ∈ calls, ¬ KeepsUnrepaired w path call) :
    ∃ path data, w.resolve? name = some path ∧ Repaired v.disk path loaded.profile data ∧
      ∃ other after, (w.afterOpening calls).openProfile name { flags with noCacheRead := true } =
          (.ok other, after) ∧
        Repaired after.disk path other.profile data := by
  obtain ⟨path, hname, hhit | ⟨profile, disk, hload, rfl, rfl⟩⟩ := openProfile_ok hopen
  -- the cached profile was left by a load that was to repair
  · obtain ⟨hread, rfl, entry, hentry, hsame, -, haccepts, rfl⟩ := hhit
    have hpath := (w.resolve?_afterOpening calls name).symm.trans hname
    have hkept := hcalls.resolve_left (by rw [hread]; decide) path hpath
    have hat : RepairedAt w path := by
      intro held hheld
      rw [hstart] at hheld
      exact absurd hheld List.not_mem_nil
    obtain ⟨data, hown⟩ :=
      repairedAt_afterOpening hat (hstored path hpath) hkept entry hentry hsame hmajor hzero
    have hrepaired := hown.of_same hsame (SearchPaths.isFile_of_resolve? hname)
    exact ⟨path, data, hpath, hrepaired, openProfile_of_repaired hrepaired hname haccepts rfl⟩
  · have hpath := (w.resolve?_afterOpening calls name).symm.trans hname
    obtain ⟨data, hrepaired⟩ := repaired_of_load hload hname hrepair
      ((hstored path hpath).afterOpening calls) hmajor hzero
    exact ⟨path, data, hpath, hrepaired⟩

/-- A call that leaves nothing in the cache, and one that is to repair. -/
def harmless : List (Path × LoadFlags) :=
  [(⟨"/a.icc"⟩, { noRepair := true, noCacheWrite := true }), (⟨"/a.icc"⟩, {})]

theorem not_keepsUnrepaired_harmless (path : Path) :
    ∀ call ∈ harmless, ¬ KeepsUnrepaired bench path call := by
  intro call hcall hkeeps
  rcases List.mem_pair.mp hcall with rfl | rfl
  · cases hkeeps.2.1
  · cases hkeeps.1

/-- The workspace after these calls. -/
def benchRepaired : Workspace := bench.afterOpening harmless

theorem repaired_after_opening_benchRepaired :
    ∃ loaded v path data,
      benchRepaired.openProfile ⟨"/a.icc"⟩ { skipTimeCheck := true } = (.ok loaded, v) ∧
        Repaired v.disk path loaded.profile data := by
  have hanswer : (benchRepaired.openProfile ⟨"/a.icc"⟩ { skipTimeCheck := true }).1.toOption.any
      (fun loaded => 4 ≤ loaded.profile.version.major ∧
        loaded.profile.computedId.isZero = false) = true := by
    decide +kernel
  cases hopen : benchRepaired.openProfile ⟨"/a.icc"⟩ { skipTimeCheck := true } with
  | mk result v =>
      rw [hopen] at hanswer
      cases result with
      | error error => cases hanswer
      | ok loaded =>
          obtain ⟨hmajor, hzero⟩ := of_decide_eq_true hanswer
          obtain ⟨path, data, -, hrepaired, -⟩ :=
            repaired_after_opening rfl hopen rfl hmajor hzero
              (fun _ _ => Profile.not_repairRefused_of_unlocked rfl _)
              (.inr fun path _ => not_keepsUnrepaired_harmless path)
          exact ⟨loaded, v, path, data, rfl, hrepaired⟩

/-- The workspace after a call that was not to repair. -/
def benchUnrepaired : Workspace := bench.afterOpening [(⟨"/a.icc"⟩, { noRepair := true })]

/-- The cache answers with the profile as it was opened, which a load repairs. -/
theorem unrepaired_from_cache :
    (benchUnrepaired.openProfile ⟨"/a.icc"⟩ {}).1.toOption.any (fun loaded =>
        4 ≤ loaded.profile.version.major ∧ loaded.profile.computedId.isZero = false ∧
          loaded.profile.checkId = .missing) = true ∧
      (benchUnrepaired.openProfile ⟨"/a.icc"⟩ { noCacheRead := true }).1.toOption.any (fun loaded =>
        loaded.profile.checkId = .valid) = true := by
  refine ⟨?_, ?_⟩ <;> decide +kernel

end IccProfile.Workspace
