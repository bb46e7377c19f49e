import IccProfile.Proofs.Catalog.Loading

/-!
# Opening profiles

What opening a name can do, said once (`Workspace.openProfile_cases`): it fails and changes
nothing, it answers with a cached profile, or it loads the file that the name is resolved
to, and what it gives goes to the cache unless the flags forbid it. `snd_openProfile` says
what this does to the catalog and the disk.
-/

set_option autoImplicit false

namespace IccProfile

open Catalog (isFresh)

/-- The cached profile of a path is one of a path of the same components. -/
theorem Catalog.of_cached? {c : Catalog} {path : Path} {entry : CacheEntry}
    (h : c.cached? path = some entry) : entry ∈ c.cache ∧ entry.path.same path = true := by
  have hfind : c.cache.find? (·.path.same path) = some entry := h
  have hsame := List.find?_some hfind
  exact ⟨List.mem_of_find?_eq_some hfind, hsame⟩

/-- What serves for a path is its cached profile, which is fresh. -/
theorem Catalog.of_hit? {c : Catalog} {d : Disk} {path : Path} {flags : LoadFlags}
    {loaded : Loaded} (h : c.hit? d path flags = some loaded) :
    ∃ entry, c.cached? path = some entry ∧ isFresh entry d path flags = true ∧
      entry.loaded = loaded := by
  unfold Catalog.hit? at h
  split at h
  · cases h
  · obtain ⟨entry, hentry, rfl⟩ := Option.map_eq_some_iff.mp h
    obtain ⟨hcached, hfresh⟩ := Option.filter_eq_some_iff.mp hentry
    exact ⟨entry, hcached, hfresh, rfl⟩

namespace Workspace

variable (w : Workspace) (path name : Path) (flags : LoadFlags)

/-- The cache entry that a load makes. -/
def entryOf (profile : Profile) (disk : Disk) : CacheEntry :=
  { path, time := disk.time? path, loaded := ⟨w.catalog.loads, profile⟩ }

/-- The catalog after a load. -/
def catalogAfter (profile : Profile) (disk : Disk) : Catalog :=
  let counted := { w.catalog with loads := w.catalog.loads + 1 }
  if flags.noCacheWrite then counted else counted.keep (w.entryOf path profile disk)

/-- A load fails and changes nothing, or gives a profile that may go to the cache. -/
theorem load_cases :
    (∃ error, w.load path flags = (.error error, w)) ∨
      ∃ profile disk, Profile.load w.disk path flags = (.ok profile, disk) ∧
        w.load path flags =
          (.ok ⟨w.catalog.loads, profile⟩, ⟨w.catalogAfter path flags profile disk, disk⟩) := by
  unfold load
  cases hload : Profile.load w.disk path flags with
  | mk result disk =>
      cases result with
      | error error =>
          have hdisk := Profile.disk_of_load_error hload
          subst hdisk
          exact .inl ⟨error, rfl⟩
      | ok profile => exact .inr ⟨profile, disk, rfl, rfl⟩

/-- Opening a name fails and changes nothing, answers with a cached profile, or loads a file for
which none serves. -/
theorem openProfile_cases :
    (∃ error, w.openProfile name flags = (.error error, w)) ∨
      ∃ path, w.resolve? name = some path ∧
        ((∃ entry, w.catalog.cached? path = some entry ∧
            isFresh entry w.disk path flags = true ∧
            flags.accepts entry.loaded.profile.version.major = true ∧
            w.openProfile name flags = (.ok entry.loaded, w)) ∨
          ∃ profile disk, w.catalog.hit? w.disk path flags = none ∧
            Profile.load w.disk path flags = (.ok profile, disk) ∧
            w.openProfile name flags =
              (.ok ⟨w.catalog.loads, profile⟩,
                ⟨w.catalogAfter path flags profile disk, disk⟩)) := by
  unfold openProfile
  split
  · exact .inl ⟨_, rfl⟩
  · cases hname : w.resolve? name with
    | none => exact .inl ⟨_, rfl⟩
    | some path =>
        simp only
        cases hhit : w.catalog.hit? w.disk path flags with
        | none =>
            rcases w.load_cases path flags with hfailed | ⟨profile, disk, hprofile, heq⟩
            · exact .inl hfailed
            · exact .inr ⟨path, rfl, .inr ⟨profile, disk, hhit, hprofile, heq⟩⟩
        | some loaded =>
            simp only
            by_cases haccepts : flags.accepts loaded.profile.version.major = true
            · obtain ⟨entry, hcached, hfresh, rfl⟩ := Catalog.of_hit? hhit
              exact .inr
                ⟨path, rfl, .inl ⟨entry, hcached, hfresh, haccepts, if_pos haccepts⟩⟩
            · exact .inl ⟨_, if_neg haccepts⟩

/-- Opening a name changes nothing, or what it leaves is left by a load. -/
theorem snd_openProfile :
    (w.openProfile name flags).2 = w ∨
      ∃ path profile disk, Profile.load w.disk path flags = (.ok profile, disk) ∧
        (w.openProfile name flags).2 = ⟨w.catalogAfter path flags profile disk, disk⟩ := by
  rcases w.openProfile_cases name flags with ⟨error, heq⟩ | ⟨path, -, hhit | hload⟩
  · exact .inl (congrArg Prod.snd heq)
  · obtain ⟨entry, -, -, -, heq⟩ := hhit
    exact .inl (congrArg Prod.snd heq)
  · obtain ⟨profile, disk, -, hprofile, heq⟩ := hload
    exact .inr ⟨path, profile, disk, hprofile, congrArg Prod.snd heq⟩

/-- A load leaves the search paths and the policy. -/
theorem catalogAfter_eq (profile : Profile) (disk : Disk) :
    (w.catalogAfter path flags profile disk).paths = w.catalog.paths ∧
      (w.catalogAfter path flags profile disk).policy = w.catalog.policy := by
  unfold catalogAfter
  split <;> exact ⟨rfl, rfl⟩

/-- So it does the known files. -/
theorem known_catalogAfter (profile : Profile) (disk : Disk) :
    (w.catalogAfter path flags profile disk).known = w.catalog.known := by
  unfold catalogAfter
  split <;> rfl

/-- Opening a name leaves the search paths and the policy. -/
theorem openProfile_eq :
    (w.openProfile name flags).2.catalog.paths = w.catalog.paths ∧
      (w.openProfile name flags).2.catalog.policy = w.catalog.policy := by
  rcases w.snd_openProfile name flags with heq | ⟨path, profile, disk, -, heq⟩
  · rw [heq]
    exact ⟨rfl, rfl⟩
  · rw [heq]
    exact w.catalogAfter_eq path flags profile disk

/-- Opening a name leaves everything that does not hold a profile. -/
theorem sameOutsideProfiles_openProfile :
    w.disk.SameOutsideProfiles (w.openProfile name flags).2.disk := by
  rcases w.snd_openProfile name flags with heq | ⟨path, profile, disk, hprofile, heq⟩
  · rw [heq]
    exact .refl w.disk
  · have hkept := Disk.sameOutsideProfiles_load w.disk path flags
    rw [hprofile] at hkept
    rw [heq]
    exact hkept

/-- After a load the cache holds the entries it held, and perhaps that of the load. -/
theorem mem_cache_catalogAfter {profile : Profile} {disk : Disk} {entry : CacheEntry}
    (h : entry ∈ (w.catalogAfter path flags profile disk).cache) :
    entry ∈ w.catalog.cache ∨ entry = w.entryOf path profile disk := by
  unfold catalogAfter at h
  simp only at h
  split at h
  · exact .inl h
  · rcases List.mem_append.mp h with hkept | hnew
    · exact .inl (List.mem_filter.mp hkept).1
    · exact .inr (List.mem_singleton.mp hnew)

/-- After a load that does not fill the cache it holds the entries it held. -/
theorem cache_catalogAfter (h : flags.noCacheWrite = true) (profile : Profile) (disk : Disk) :
    (w.catalogAfter path flags profile disk).cache = w.catalog.cache := by
  unfold catalogAfter
  rw [if_pos h]

/-- After a name was opened all names are resolved as before. -/
theorem resolve?_openProfile (other : Path) :
    (w.openProfile name flags).2.resolve? other = w.resolve? other := by
  unfold resolve?
  rw [(w.openProfile_eq name flags).1]
  exact SearchPaths.resolve?_of_sameShape
    (w.sameOutsideProfiles_openProfile name flags).toSameShape w.catalog.paths other

variable {w path name flags}

/-- A name that is resolved is answered by the cache or loaded. -/
theorem openProfile_of_resolve? (hname : w.resolve? name = some path) :
    w.openProfile name flags =
      match w.catalog.hit? w.disk path flags with
      | some loaded =>
        if flags.accepts loaded.profile.version.major then (.ok loaded, w)
        else (.error (.versionFiltered loaded.profile.version.major), w)
      | none => w.load path flags := by
  have hfilled : name.text ≠ "" := by
    intro hempty
    unfold resolve? SearchPaths.resolve? at hname
    rw [if_pos hempty] at hname
    cases hname
  cases hhit : w.catalog.hit? w.disk path flags with
  | none => simp only [openProfile, if_neg hfilled, hname, hhit]
  | some loaded => simp only [openProfile, if_neg hfilled, hname, hhit]

/-- It is loaded when the cache is not to be looked into. -/
theorem openProfile_of_noCacheRead (hname : w.resolve? name = some path)
    (h : flags.noCacheRead = true) : w.openProfile name flags = w.load path flags := by
  rw [openProfile_of_resolve? hname, Catalog.hit?, if_pos h]

/-- What is answered comes from the cache, if this may be looked into, or from a load. -/
theorem openProfile_ok {v : Workspace} {loaded : Loaded}
    (h : w.openProfile name flags = (.ok loaded, v)) :
    ∃ path, w.resolve? name = some path ∧
      ((flags.noCacheRead = false ∧ v = w ∧ ∃ entry ∈ w.catalog.cache,
          entry.path.same path = true ∧ isFresh entry w.disk path flags = true ∧
          flags.accepts loaded.profile.version.major = true ∧ entry.loaded = loaded) ∨
        ∃ profile disk, Profile.load w.disk path flags = (.ok profile, disk) ∧
          loaded = ⟨w.catalog.loads, profile⟩ ∧
          v = ⟨w.catalogAfter path flags profile disk, disk⟩) := by
  rcases w.openProfile_cases name flags with ⟨error, heq⟩ | ⟨path, hname, hhit | hload⟩
  · rw [heq] at h
    cases h
  · refine ⟨path, hname, ?_⟩
    cases hcache : flags.noCacheRead with
    | true =>
        -- the cache was not looked into
        rw [openProfile_of_noCacheRead hname hcache] at h
        rcases w.load_cases path flags with ⟨error, heq⟩ | ⟨profile, disk, hprofile, heq⟩
        · rw [heq] at h
          cases h
        · rw [heq] at h
          cases h
          exact .inr ⟨profile, disk, hprofile, rfl, rfl⟩
    | false =>
        obtain ⟨entry, hcached, hfresh, haccepts, heq⟩ := hhit
        rw [heq] at h
        cases h
        obtain ⟨hentry, hsame⟩ := Catalog.of_cached? hcached
        exact .inl ⟨rfl, rfl, entry, hentry, hsame, hfresh, haccepts, rfl⟩
  · obtain ⟨profile, disk, -, hprofile, heq⟩ := hload
    rw [heq] at h
    cases h
    exact ⟨path, hname, .inr ⟨profile, disk, hprofile, rfl, rfl⟩⟩

end Workspace

end IccProfile
