import IccProfile.Proofs.Catalog.Loaded
import IccProfile.Proofs.Catalog.Opening
import IccProfile.Proofs.Profile.Representation

/-!
# The cache is never stale

A cached profile serves again when its file has the time that it had when the profile was
loaded. `Run earlier w` is a run of one catalog that has come to `w` over the disks
`earlier`: names are opened, the cache is cleared, and files are changed from outside. No
repair is refused (`StoresRepair`). Every write gives a file a time that its place never had
(`NewTimes`), so a time stands for one content (`Traced.content_eq`).

Each cache entry goes back to a disk of the past on which its path led to its bytes at its
time (`Recorded`). Each step keeps this (`Run.traced`), so a profile that is answered holds
the bytes of its file as they are now (`cache_never_stale`).
-/

set_option autoImplicit false

namespace IccProfile.Workspace

open Catalog (isFresh)

/-- Each file of the later disk is as it was, or has a time that its place never had before. -/
def NewTimes (earlier : List Disk) (before after : Disk) : Prop :=
  ∀ place content time, after.entry? place = some (.file content time) →
    before.entry? place = some (.file content time) ∨
      ∀ d ∈ before :: earlier, ∀ old, d.entry? place ≠ some (.file old time)

/-- Writing a file gives it a new time, as long as the clock is not behind. -/
theorem newTimes_putFile {earlier : List Disk} {d : Disk} {place : Place} (hplace : place ≠ [])
    (hclock : ∀ e ∈ d :: earlier, ∀ content time,
      e.entry? place = some (.file content time) → time ≤ d.clock) (new : Bytes) :
    NewTimes earlier d (d.putFile place new) := by
  intro other content time hfile
  rw [Disk.entry_putFile hplace] at hfile
  by_cases hother : other = place
  · rw [if_pos hother] at hfile
    cases hfile
    refine .inr ?_
    intro e he old hold
    rw [hother] at hold
    exact absurd (hclock e he old _ hold) (Nat.not_succ_le_self d.clock)
  · rw [if_neg hother] at hfile
    exact .inl hfile

/-- What opening a name comes to load, if anything, is not refused a repair. -/
def StoresRepair (w : Workspace) (name : Path) (flags : LoadFlags) : Prop :=
  ∀ path, w.resolve? name = some path → w.catalog.hit? w.disk path flags = none →
    ¬ Profile.RepairRefused w.disk flags (w.disk.placeOf path)

/-- Nothing is on a disk without locked places. -/
theorem storesRepair_of_unlocked {w : Workspace} {name : Path} {flags : LoadFlags}
    (h : w.disk.locked = []) : w.StoresRepair name flags :=
  fun _ _ _ => Profile.not_repairRefused_of_unlocked h _

/-- The runs of a catalog, with the disks that they came over. -/
inductive Run : List Disk → Workspace → Prop
  | start {w : Workspace} (h : w.catalog.cache = []) : Run [] w
  | openProfile {earlier : List Disk} {w : Workspace} (name : Path) (flags : LoadFlags)
      (h : Run earlier w) (hstored : w.StoresRepair name flags)
      (hnew : NewTimes earlier w.disk (w.openProfile name flags).2.disk) :
      Run (w.disk :: earlier) (w.openProfile name flags).2
  | clear {earlier : List Disk} {w : Workspace} (h : Run earlier w) :
      Run earlier { w with catalog := w.catalog.clear }
  | outside {earlier : List Disk} {w : Workspace} (disk : Disk)
      (hworking : disk.working = w.disk.working) (h : Run earlier w)
      (hnew : NewTimes earlier w.disk disk) : Run (w.disk :: earlier) { w with disk }

/-- The path of a cache entry led to its bytes, at its time, on one of the disks. -/
def Recorded (disks : List Disk) (entry : CacheEntry) : Prop :=
  entry.loaded.profile.fileName = some entry.path ∧
    ∃ d ∈ disks, ∃ place content time, d.locate entry.path = .ok place ∧
      d.entry? place = some (.file content time) ∧ entry.time = some time ∧
      entry.loaded.profile.raw = some content

/-- What holds of a workspace and the disks that it came over. -/
structure Traced (earlier : List Disk) (w : Workspace) : Prop where
  working_eq : ∀ d ∈ earlier, d.working = w.disk.working
  /-- A time at a place stands for one content. -/
  content_eq : ∀ d ∈ w.disk :: earlier, ∀ e ∈ w.disk :: earlier, ∀ place first second time,
    d.entry? place = some (.file first time) → e.entry? place = some (.file second time) →
      first = second
  recorded : ∀ entry ∈ w.catalog.cache, Recorded (w.disk :: earlier) entry

variable {earlier : List Disk} {w : Workspace}

theorem Recorded.cons {disks : List Disk} {entry : CacheEntry} (h : Recorded disks entry)
    (disk : Disk) : Recorded (disk :: disks) entry := by
  obtain ⟨hname, d, hd, hwas⟩ := h
  exact ⟨hname, d, List.mem_cons_of_mem disk hd, hwas⟩

/-! ## Steps -/

/-- With a further disk a time at a place still stands for one content. -/
theorem Traced.content_eq_cons (h : Traced earlier w) {disk : Disk}
    (hnew : NewTimes earlier w.disk disk) :
    ∀ d ∈ disk :: w.disk :: earlier, ∀ e ∈ disk :: w.disk :: earlier,
      ∀ place first second time, d.entry? place = some (.file first time) →
        e.entry? place = some (.file second time) → first = second := by
  -- a file of the new disk against one of an earlier disk
  have hagainst : ∀ e ∈ w.disk :: earlier, ∀ place first second time,
      disk.entry? place = some (.file first time) →
        e.entry? place = some (.file second time) → first = second := by
    intro e he place first second time hfirst hsecond
    rcases hnew place first time hfirst with hkept | hnever
    · exact h.content_eq _ List.mem_cons_self _ he _ _ _ _ hkept hsecond
    · exact absurd hsecond (hnever e he second)
  intro d hd e he place first second time hfirst hsecond
  rcases List.mem_cons.mp hd with rfl | hpast
  · rcases List.mem_cons.mp he with rfl | hpast
    · exact (DiskEntry.file.inj (Option.some.inj (hfirst.symm.trans hsecond))).1
    · exact hagainst e hpast _ _ _ _ hfirst hsecond
  · rcases List.mem_cons.mp he with rfl | hother
    · exact (hagainst d hpast _ _ _ _ hsecond hfirst).symm
    · exact h.content_eq _ hpast _ hother _ _ _ _ hfirst hsecond

/-- A workspace stays traced on a further disk when what is new in its cache is recorded. -/
theorem Traced.extend (h : Traced earlier w) {v : Workspace}
    (hworking : v.disk.working = w.disk.working) (hnew : NewTimes earlier w.disk v.disk)
    (hcache : ∀ entry ∈ v.catalog.cache,
      entry ∈ w.catalog.cache ∨ Recorded (v.disk :: w.disk :: earlier) entry) :
    Traced (w.disk :: earlier) v where
  working_eq := by
    intro d hd
    rw [hworking]
    rcases List.mem_cons.mp hd with rfl | hd
    · rfl
    · exact h.working_eq d hd
  content_eq := h.content_eq_cons hnew
  recorded := by
    intro entry hentry
    rcases hcache entry hentry with hkept | hrecorded
    · exact (h.recorded entry hkept).cons v.disk
    · exact hrecorded

/-- A load whose repair is not refused records what it adds to the cache. -/
theorem recorded_entryOf {path : Path} {flags : LoadFlags} {profile : Profile} {disk : Disk}
    (h : Profile.load w.disk path flags = (.ok profile, disk))
    (hstored : ¬ Profile.RepairRefused w.disk flags (w.disk.placeOf path)) (disks : List Disk) :
    Recorded (disk :: disks) (w.entryOf path profile disk) := by
  obtain ⟨content, hread, hholds⟩ := (Profile.loads_of_load h).read_eq hstored
  obtain ⟨place, time, hplace, hfile⟩ := Disk.read_ok_iff.mp hread
  refine ⟨(Profile.load_ok h).1, disk, List.mem_cons_self, place, content, time, hplace, hfile, ?_,
    hholds.raw_eq⟩
  exact Disk.time?_eq_some_iff.mpr ⟨place, content, hplace, hfile⟩

/-- Opening a name keeps the trace. -/
theorem Traced.openProfile (h : Traced earlier w) {name : Path} {flags : LoadFlags}
    (hstored : w.StoresRepair name flags)
    (hnew : NewTimes earlier w.disk (w.openProfile name flags).2.disk) :
    Traced (w.disk :: earlier) (w.openProfile name flags).2 := by
  rcases w.openProfile_cases name flags with ⟨error, heq⟩ | ⟨path, hpath, hhit | hload⟩
  · rw [heq] at hnew ⊢
    exact h.extend rfl hnew fun entry => .inl
  · obtain ⟨held, -, -, -, heq⟩ := hhit
    rw [heq] at hnew ⊢
    exact h.extend rfl hnew fun entry => .inl
  · obtain ⟨profile, disk, hhit, hprofile, heq⟩ := hload
    rw [heq] at hnew ⊢
    refine h.extend (Profile.loads_of_load hprofile).sameShape.working_eq hnew ?_
    intro entry hentry
    rcases w.mem_cache_catalogAfter path flags hentry with hkept | rfl
    · exact .inl hkept
    · exact .inr (recorded_entryOf hprofile (hstored path hpath hhit) _)

/-- Every run is traced. -/
theorem Run.traced (h : Run earlier w) : Traced earlier w := by
  induction h with
  | start hempty =>
      refine ⟨fun d hd => absurd hd List.not_mem_nil, ?_, ?_⟩
      · intro d hd e he place first second time hfirst hsecond
        obtain rfl := List.mem_singleton.mp hd
        obtain rfl := List.mem_singleton.mp he
        exact (DiskEntry.file.inj (Option.some.inj (hfirst.symm.trans hsecond))).1
      · intro entry hentry
        rw [hempty] at hentry
        exact absurd hentry List.not_mem_nil
  | openProfile name flags _ hstored hnew ih => exact ih.openProfile hstored hnew
  | clear _ ih =>
      exact ⟨ih.working_eq, ih.content_eq, fun entry hentry => absurd hentry List.not_mem_nil⟩
  | outside disk hworking _ hnew ih => exact ih.extend hworking hnew fun entry => .inl

/-! ## Answers -/

/-- A cached profile that serves holds the bytes of its file. -/
theorem Traced.read_of_fresh (h : Traced earlier w) {path : Path} {entry : CacheEntry}
    (hfile : w.disk.isFile path = true) (hentry : entry ∈ w.catalog.cache)
    (hsame : entry.path.same path = true) (htime : entry.time = w.disk.time? path) :
    ∃ content, w.disk.read path = .ok content ∧ entry.loaded.profile.raw = some content := by
  obtain ⟨place, content, time, hplace, hnow⟩ := Disk.isFile_iff.mp hfile
  have hnowTime : w.disk.time? path = some time :=
    Disk.time?_eq_some_iff.mpr ⟨place, content, hplace, hnow⟩
  obtain ⟨-, d, hd, was, held, wasTime, hwas, hthen, hentryTime, hraw⟩ := h.recorded entry hentry
  -- the path of the entry led to the same place
  have hworking : d.working = w.disk.working := by
    rcases List.mem_cons.mp hd with rfl | hd
    · rfl
    · exact h.working_eq d hd
  obtain rfl := Disk.locate_eq_of_same hworking hsame hwas hplace
  -- the place had the same time, so the same content
  rw [hentryTime, hnowTime] at htime
  obtain rfl := Option.some.inj htime
  obtain rfl := h.content_eq d hd w.disk List.mem_cons_self _ _ _ _ hthen hnow
  exact ⟨held, Disk.read_ok_iff.mpr ⟨was, wasTime, hplace, hnow⟩, hraw⟩

/-- In every run a profile that is answered carries the path that the name is resolved to and has
a version that was asked for. Unless the time of the file is not to be compared or a repair is
refused, its raw bytes are what the file holds. -/
theorem cache_never_stale {w' : Workspace} {name : Path} {flags : LoadFlags} {loaded : Loaded}
    (hrun : Run earlier w) (h : w.openProfile name flags = (.ok loaded, w')) :
    ∃ path, w.resolve? name = some path ∧
      (∃ own, loaded.profile.fileName = some own ∧ own.same path = true) ∧
      flags.accepts loaded.profile.version.major = true ∧
      (flags.skipTimeCheck = false → w.StoresRepair name flags →
        ∃ content, w'.disk.read path = .ok content ∧ loaded.profile.raw = some content) := by
  have htraced := hrun.traced
  rcases w.openProfile_cases name flags with ⟨error, heq⟩ | ⟨path, hpath, hhit | hload⟩
  · rw [heq] at h
    cases h
  -- a cached profile
  · obtain ⟨entry, hcached, hfresh, haccepts, heq⟩ := hhit
    rw [heq] at h
    cases h
    have hfind : w.catalog.cache.find? (·.path.same path) = some entry := hcached
    have hmem := List.mem_of_find?_eq_some hfind
    have hsame := List.find?_some hfind
    refine ⟨path, hpath, ⟨entry.path, (htraced.recorded entry hmem).1, hsame⟩, haccepts, ?_⟩
    intro hskip _
    rw [isFresh, hskip, Bool.false_or, decide_eq_true_eq] at hfresh
    exact htraced.read_of_fresh (SearchPaths.isFile_of_resolve? hpath) hmem hsame hfresh
  -- a profile that was loaded
  · obtain ⟨profile, disk, hhit, hprofile, heq⟩ := hload
    rw [heq] at h
    cases h
    obtain ⟨hname, haccepts⟩ := Profile.load_ok hprofile
    refine ⟨path, hpath, ⟨path, hname, decide_eq_true rfl⟩, haccepts, ?_⟩
    intro _ hstored
    obtain ⟨content, hread, hholds⟩ :=
      (Profile.loads_of_load hprofile).read_eq (hstored path hpath hhit)
    exact ⟨content, hread, hholds.raw_eq⟩

/-- The shortest container as one of version 4, without an ID. -/
def unrepaired : Bytes := HeaderField.version.write Profile.shortest 0x04000000

theorem accepted_unrepaired : Profile.Accepted unrepaired := by
  unfold unrepaired HeaderField.write
  apply (Profile.accepted_patch_iff _).mpr Profile.accepted_shortest
  rw [Bytes.length_ofNat]
  decide

/-- A catalog that was not used yet. -/
def bench : Workspace where
  catalog := { paths := ⟨[]⟩ }
  disk := { entries := [(["a.icc"], .file unrepaired 1)], working := [], clock := 1 }

/-- The flags of a call that asks for version 4 and keeps the profile as it is. -/
def keeping : LoadFlags := { version4 := true, noRepair := true }

/-- The flags of a call that does not ask the cache. -/
def reading : LoadFlags := { noCacheRead := true }

/-- The flags of a call that asks for version 2. -/
def older : LoadFlags := { version2 := true, noCacheWrite := true }

/-- The catalog after the file was opened as it is. -/
def benchKept : Workspace := (bench.openProfile ⟨"/a.icc"⟩ keeping).2

theorem disk_benchKept : benchKept.disk = bench.disk := by
  have hname : bench.resolve? ⟨"/a.icc"⟩ = some ⟨"/a.icc"⟩ := by decide
  have hread : bench.disk.read ⟨"/a.icc"⟩ = .ok unrepaired := by rfl
  have hload : Profile.load bench.disk ⟨"/a.icc"⟩ keeping = _ :=
    Profile.load_of_keepsId hread accepted_unrepaired (by decide +kernel) (.inl rfl)
  have hhit : bench.catalog.hit? bench.disk ⟨"/a.icc"⟩ keeping = none := rfl
  rw [benchKept, openProfile_of_resolve? hname, hhit]
  simp only [load, hload]

/-- The catalog after the file was loaded again, which stores its ID in it. -/
def benchOpened : Workspace := (benchKept.openProfile ⟨"/a.icc"⟩ reading).2

theorem disk_benchOpened : ∃ new, benchOpened.disk = bench.disk.putFile ["a.icc"] new := by
  refine ⟨(ProfileId.ofContent unrepaired).stamp unrepaired, ?_⟩
  have hplace : bench.disk.locate ⟨"/a.icc"⟩ = .ok ["a.icc"] := by rfl
  have hfile : bench.disk.entry? ["a.icc"] = some (.file unrepaired 1) := by rfl
  have hname : benchKept.resolve? ⟨"/a.icc"⟩ = some ⟨"/a.icc"⟩ := by decide +kernel
  have hrepair : ¬ ((LoadFlags.noRepair reading ||
      (Profile.ofFile ⟨"/a.icc"⟩ unrepaired accepted_unrepaired.headerSize_le).version.major < 4 ||
        (Profile.ofFile ⟨"/a.icc"⟩ unrepaired
          accepted_unrepaired.headerSize_le).checkId.isValid) = true) := by
    decide +kernel
  have hload : Profile.load bench.disk ⟨"/a.icc"⟩ reading = _ :=
    Profile.load_of_file hplace hfile accepted_unrepaired rfl
  rw [if_neg hrepair, if_neg (by decide)] at hload
  rw [benchOpened, openProfile_of_noCacheRead hname rfl]
  simp only [load, disk_benchKept, hload]

/-- The same container as one of version 2. -/
def unlabeled : Bytes := HeaderField.version.write Profile.shortest 0x02000000

/-- The catalog after the file was replaced from outside. -/
def benchReplaced : Workspace :=
  { benchOpened with disk := benchOpened.disk.putFile ["a.icc"] unlabeled }

theorem run_benchReplaced : Run [benchOpened.disk, benchKept.disk, bench.disk] benchReplaced := by
  obtain ⟨new, hdisk⟩ := disk_benchOpened
  have hbefore : ∀ content time,
      bench.disk.entry? ["a.icc"] = some (.file content time) → time = bench.disk.clock := by
    intro content time hfile
    have hheld : bench.disk.entry? ["a.icc"] = some (.file unrepaired 1) := by rfl
    rw [hheld] at hfile
    exact (DiskEntry.file.inj (Option.some.inj hfile)).2.symm
  have hkept : Run [bench.disk] benchKept := by
    refine .openProfile ⟨"/a.icc"⟩ keeping (.start rfl) (storesRepair_of_unlocked rfl) ?_
    rw [← benchKept, disk_benchKept]
    exact fun _ _ _ => .inl
  have hopened : Run [benchKept.disk, bench.disk] benchOpened := by
    refine .openProfile ⟨"/a.icc"⟩ reading hkept (storesRepair_of_unlocked (by decide +kernel)) ?_
    rw [← benchOpened, hdisk, disk_benchKept]
    apply newTimes_putFile (by decide)
    intro e he content time hfile
    obtain rfl : e = bench.disk := by simpa using he
    exact (hbefore content time hfile).le
  refine .outside _ ?_ hopened ?_
  · rw [Disk.putFile]
  · apply newTimes_putFile (by decide)
    rw [hdisk, disk_benchKept]
    intro e he content time hfile
    rcases List.mem_cons.mp he with rfl | he
    · rw [Disk.entry_putFile (by decide), if_pos rfl] at hfile
      exact (DiskEntry.file.inj (Option.some.inj hfile)).2.ge
    · obtain rfl : e = bench.disk := by simpa using he
      exact (hbefore content time hfile).le.trans (Nat.le_succ _)

/-- The file is answered again, and holds what it was replaced with. -/
theorem answered_benchReplaced : ∃ loaded w',
    benchReplaced.openProfile ⟨"/a.icc"⟩ older = (.ok loaded, w') ∧
      w'.disk.read ⟨"/a.icc"⟩ = .ok unlabeled := by
  have hanswered : (benchReplaced.openProfile ⟨"/a.icc"⟩ older).1.toOption.isSome = true := by
    decide +kernel
  have hread : (benchReplaced.openProfile ⟨"/a.icc"⟩ older).2.disk.read ⟨"/a.icc"⟩ =
      .ok unlabeled := by
    decide +kernel
  cases hopen : benchReplaced.openProfile ⟨"/a.icc"⟩ older with
  | mk result w' =>
      rw [hopen] at hanswered hread
      cases result with
      | error error => cases hanswered
      | ok loaded => exact ⟨loaded, w', rfl, hread⟩

theorem cache_never_stale_benchReplaced :
    Run [benchOpened.disk, benchKept.disk, bench.disk] benchReplaced ∧
      ∃ loaded w', benchReplaced.openProfile ⟨"/a.icc"⟩ older = (.ok loaded, w') ∧
        loaded.profile.version.major = 2 ∧ loaded.profile.raw = some unlabeled := by
  obtain ⟨loaded, w', hopen, hread⟩ := answered_benchReplaced
  obtain ⟨path, hpath, -, haccepts, hraw⟩ := cache_never_stale run_benchReplaced hopen
  have hname : benchReplaced.resolve? ⟨"/a.icc"⟩ = some ⟨"/a.icc"⟩ := by decide +kernel
  obtain rfl := Option.some.inj (hname.symm.trans hpath)
  obtain ⟨content, hnow, hcontent⟩ := hraw rfl (storesRepair_of_unlocked (by decide +kernel))
  obtain rfl := Except.ok.inj (hread.symm.trans hnow)
  have hmajor : loaded.profile.version.major = 2 := by
    rcases LoadFlags.accepts_iff.mp haccepts with ⟨hany, -⟩ | ⟨-, hmajor⟩ | ⟨hfour, -⟩
    · cases hany
    · exact hmajor
    · cases hfour
  exact ⟨run_benchReplaced, loaded, w', hopen, hmajor, hcontent⟩

end IccProfile.Workspace
