import IccProfile.Proofs.Catalog.Loaded
import IccProfile.Proofs.Catalog.Opening

/-!
# Cached profiles and the files as they are

A cache entry is up to date when its profile is what its file stands for, unless the file
has another time than the entry (`UpToDate`). This speaks of the disk as it is now and of no
earlier one. It stays true on a later disk (`UpToDate.later`), and a load makes such an
entry (`upToDate_entryOf`), so it holds of all entries of a catalog in use (`Used.trusted`),
whatever is opened, forgotten, written or locked from outside. The places where repairs may
be refused on the way are given by a predicate `refusing`: with none of them a file stands for
what it holds, with all of them nothing is asked of the disks.

A profile that is opened with regard to the time of its file is then the one of the bytes
that the file stands for (`Trusted.answer`).
-/

set_option autoImplicit false

namespace IccProfile.Workspace

open Catalog (isFresh)
open Profile (Backs ComesFrom Loads RepairRefused)

variable {refusing : Place → Prop} {w v : Workspace} {d e : Disk} {path name : Path}
  {flags : LoadFlags} {entry : CacheEntry} {loaded : Loaded}

/-- Repairs are refused at some places only. -/
def RefusesAt (refusing : Place → Prop) (d : Disk) : Prop :=
  ∀ place, RepairRefused d {} place → refusing place

/-- A cached profile is that of its file, as long as the file has the time of the entry. -/
structure UpToDate (refusing : Place → Prop) (d : Disk) (entry : CacheEntry) : Prop where
  fileName_eq : entry.loaded.profile.fileName = some entry.path
  usable : Disk.Usable entry.path
  time_le : ∀ time, entry.time = some time → time ≤ d.clock
  holds : ∃ data, entry.loaded.profile.Holds data ∧
    ∀ content time, d.entry? (d.placeOf entry.path) = some (.file content time) →
      entry.time = some time → Backs refusing (d.placeOf entry.path) content data

/-- All cached profiles are up to date, and no file is ahead of the clock. -/
structure Trusted (refusing : Place → Prop) (w : Workspace) : Prop where
  timely : w.disk.Timely
  refusesAt : RefusesAt refusing w.disk
  upToDate : ∀ entry ∈ w.catalog.cache, UpToDate refusing w.disk entry

/-- A catalog in use: it starts without cached profiles; names are opened, the cache is cleared,
the known files are what they may be, and files are changed and locked from outside. -/
inductive Used (refusing : Place → Prop) : Workspace → Prop
  | start {w : Workspace} (hcache : w.catalog.cache = []) (htimely : w.disk.Timely)
      (hrefuses : RefusesAt refusing w.disk) : Used refusing w
  | openProfile {w : Workspace} (name : Path) (flags : LoadFlags) (h : Used refusing w) :
      Used refusing (w.openProfile name flags).2
  | clear {w : Workspace} (h : Used refusing w) :
      Used refusing { w with catalog := w.catalog.clear }
  | know {w : Workspace} (known : Option (List Path)) (h : Used refusing w) :
      Used refusing { w with catalog := { w.catalog with known } }
  | outside {w : Workspace} (disk : Disk) (hlater : w.disk.Later disk)
      (hrefuses : RefusesAt refusing disk) (h : Used refusing w) : Used refusing { w with disk }

/-- Without locked places this says nothing. -/
theorem refusesAt_of_unlocked (h : d.locked = []) : RefusesAt refusing d :=
  fun place hrefused => absurd hrefused (Profile.not_repairRefused_of_unlocked h place)

/-- A load leaves the places where repairs are refused. -/
theorem RefusesAt.loads {p : Profile} (h : RefusesAt refusing d)
    (hloads : Loads d path flags p e) : RefusesAt refusing e :=
  fun place hrefused => h place (hloads.repairRefused hrefused)

/-! ## Steps -/

/-- An entry stays up to date on a later disk. -/
theorem UpToDate.later (h : UpToDate refusing d entry) (hlater : d.Later e) :
    UpToDate refusing e entry where
  fileName_eq := h.fileName_eq
  usable := h.usable
  time_le := fun time htime => Nat.le_trans (h.time_le time htime) hlater.clock_le
  holds := by
    obtain ⟨data, hholds, hbacks⟩ := h.holds
    refine ⟨data, hholds, ?_⟩
    intro content time hfile htime
    rw [Disk.placeOf_eq_of_working hlater.working_eq] at hfile ⊢
    exact hbacks content time (hlater.file_of_time hfile (h.time_le time htime)) htime

theorem UpToDate.mono {more : Place → Prop} (h : UpToDate refusing d entry)
    (hmore : ∀ place, refusing place → more place) : UpToDate more d entry where
  fileName_eq := h.fileName_eq
  usable := h.usable
  time_le := h.time_le
  holds := by
    obtain ⟨data, hholds, hbacks⟩ := h.holds
    exact ⟨data, hholds, fun content time hfile htime =>
      (hbacks content time hfile htime).mono (hmore _)⟩

/-- What a load keeps is up to date. -/
theorem upToDate_entryOf {profile : Profile} (hw : Trusted refusing w)
    (h : Profile.load w.disk path flags = (.ok profile, e)) :
    UpToDate refusing e (w.entryOf path profile e) := by
  have hloads := Profile.loads_of_load h
  obtain ⟨held, data, hfrom⟩ := hloads.comesFrom
  obtain ⟨time, hfile, htime⟩ := Disk.entry_placeOf_of_read hfrom.read_eq
  refine ⟨(Profile.load_ok h).1, Disk.usable_of_isFile (Disk.isFile_of_read hfrom.read_eq), ?_,
    data, hfrom.holds, ?_⟩
  · intro stored hstored
    obtain rfl := Option.some.inj (htime.symm.trans hstored)
    exact hloads.later.timely hw.timely _ _ _ hfile
  · intro content stored hcontent _
    have hheld : e.entry? (e.placeOf path) = some (.file content stored) := hcontent
    rw [hfile] at hheld
    cases hheld
    exact hfrom.backs.mono fun hrefused => hw.refusesAt _ hrefused.default

namespace Trusted

theorem mono {more : Place → Prop} (h : Trusted refusing w)
    (hmore : ∀ place, refusing place → more place) : Trusted more w where
  timely := h.timely
  refusesAt := fun place hrefused => hmore place (h.refusesAt place hrefused)
  upToDate := fun entry hentry => (h.upToDate entry hentry).mono hmore

/-- A workspace on a later disk is trusted when what is new in its cache is up to date. -/
theorem extend (h : Trusted refusing w) (hlater : w.disk.Later v.disk)
    (hrefuses : RefusesAt refusing v.disk)
    (hcache : ∀ entry ∈ v.catalog.cache,
      entry ∈ w.catalog.cache ∨ UpToDate refusing v.disk entry) :
    Trusted refusing v where
  timely := hlater.timely h.timely
  refusesAt := hrefuses
  upToDate := by
    intro entry hentry
    rcases hcache entry hentry with hkept | hnew
    · exact (h.upToDate entry hkept).later hlater
    · exact hnew

/-- So it is on the same disk. -/
theorem extend_cache (h : Trusted refusing w) (hdisk : v.disk = w.disk)
    (hcache : ∀ entry ∈ v.catalog.cache, entry ∈ w.catalog.cache) : Trusted refusing v := by
  refine h.extend ?_ ?_ fun entry hentry => .inl (hcache entry hentry)
  · rw [hdisk]
    exact Disk.later_refl _
  · rw [hdisk]
    exact h.refusesAt

/-- Opening a name keeps the trust. -/
theorem openProfile (h : Trusted refusing w) (name : Path) (flags : LoadFlags) :
    Trusted refusing (w.openProfile name flags).2 := by
  rcases w.snd_openProfile name flags with heq | ⟨path, profile, disk, hprofile, heq⟩
  · rw [heq]
    exact h
  · have hloads := Profile.loads_of_load hprofile
    rw [heq]
    refine h.extend hloads.later (h.refusesAt.loads hloads) ?_
    intro entry hentry
    rcases w.mem_cache_catalogAfter path flags hentry with hkept | rfl
    · exact .inl hkept
    · exact .inr (upToDate_entryOf h hprofile)

end Trusted

/-- The cache of a catalog in use can be trusted. -/
theorem Used.trusted (h : Used refusing w) : Trusted refusing w := by
  induction h with
  | start hcache htimely hrefuses =>
      refine ⟨htimely, hrefuses, ?_⟩
      intro entry hentry
      rw [hcache] at hentry
      exact absurd hentry List.not_mem_nil
  | openProfile name flags _ ih => exact ih.openProfile name flags
  | clear _ ih => exact ih.extend_cache rfl fun _ hentry => absurd hentry List.not_mem_nil
  | know known _ ih => exact ih.extend_cache rfl fun _ => id
  | outside disk hlater hrefuses _ ih => exact ih.extend hlater hrefuses fun _ => .inl

/-! ## Answers -/

/-- An entry that serves comes from its file, under its own path and under that of the request. -/
theorem UpToDate.comesFrom (h : UpToDate refusing d entry) (hsame : entry.path.same path = true)
    (hfile : d.isFile path = true) (htime : entry.time = d.time? path) :
    ∃ content data, ComesFrom refusing d path entry.loaded.profile content data ∧
      d.read entry.path = .ok content := by
  obtain ⟨data, hholds, hbacks⟩ := h.holds
  obtain ⟨content, time, hread, hnow, hentry⟩ := Disk.read_of_isFile hfile
  rw [Disk.placeOf_eq_of_same d hsame] at hbacks
  have hown := Disk.isFile_of_same h.usable hsame hfile
  exact ⟨content, data, ⟨hread, hholds, hbacks content time hentry (htime.trans hnow)⟩,
    (Disk.read_eq_of_same hsame hown hfile).trans hread⟩

/-- What serves for a file with regard to its time comes from the file. -/
theorem Trusted.comesFrom_of_hit? {content : Bytes} (h : Trusted refusing w)
    (hskip : flags.skipTimeCheck = false) (hread : w.disk.read path = .ok content)
    (hhit : w.catalog.hit? w.disk path flags = some loaded) :
    ∃ data, ComesFrom refusing w.disk path loaded.profile content data := by
  obtain ⟨entry, hcached, hfresh, rfl⟩ := Catalog.of_hit? hhit
  obtain ⟨hentry, hsame⟩ := Catalog.of_cached? hcached
  rw [isFresh, hskip, Bool.false_or, decide_eq_true_eq] at hfresh
  obtain ⟨held, data, hfrom, -⟩ :=
    (h.upToDate entry hentry).comesFrom hsame (Disk.isFile_of_read hread) hfresh
  obtain rfl := Except.ok.inj (hread.symm.trans hfrom.read_eq)
  exact ⟨data, hfrom⟩

/-- What is opened with regard to the time of its file comes from the file, which it names. -/
theorem Trusted.answer (h : Trusted refusing w) (hskip : flags.skipTimeCheck = false)
    (hopen : w.openProfile name flags = (.ok loaded, v)) :
    ∃ path own content data, w.resolve? name = some path ∧
      loaded.profile.fileName = some own ∧ own.same path = true ∧
      ComesFrom refusing v.disk path loaded.profile content data ∧
      v.disk.read own = .ok content := by
  obtain ⟨path, hpath, hhit | ⟨profile, disk, hload, rfl, rfl⟩⟩ := openProfile_ok hopen
  -- a cached profile
  · obtain ⟨-, rfl, entry, hmem, hsame, hfresh, -, rfl⟩ := hhit
    have hentry := h.upToDate entry hmem
    rw [isFresh, hskip, Bool.false_or, decide_eq_true_eq] at hfresh
    obtain ⟨content, data, hfrom, hown⟩ :=
      hentry.comesFrom hsame (SearchPaths.isFile_of_resolve? hpath) hfresh
    exact ⟨path, entry.path, content, data, hpath, hentry.fileName_eq, hsame, hfrom, hown⟩
  -- a profile that was loaded
  · obtain ⟨content, data, hfrom⟩ := (Profile.loads_of_load hload).comesFrom
    have hgiven := hfrom.mono fun hrefused => h.refusesAt _ hrefused.default
    exact ⟨path, path, content, data, hpath, (Profile.load_ok hload).1, decide_eq_true rfl,
      hgiven, hfrom.read_eq⟩

end IccProfile.Workspace
