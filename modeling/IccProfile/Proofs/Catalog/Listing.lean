import IccProfile.Proofs.Catalog.Opening
import IccProfile.Proofs.Files.Path
import IccProfile.Proofs.Sorting

/-!
# Listing profiles

The files that a catalog looks for end like profiles do, so their paths have file names
(`isNamed_of_mem_findFiles`), and a path keeps its file name when it is resolved
(`SearchPaths.isNamed_of_resolve?`). A catalog whose cached profiles have file names
keeps this when such a path is opened (`Workspace.openProfile_named`), so all profiles
that it lists have file names (`Workspace.profiles_named`).

Listing may store IDs in the files of profiles, and changes no other file
(`Workspace.profiles_eq`).
-/

set_option autoImplicit false

namespace IccProfile

/-- A profile carries a path with a file name. -/
def Profile.HasFileName (p : Profile) : Prop :=
  ∃ path name, p.fileName = some path ∧ path.fileName? = some name

/-- A path has a file name. -/
def Path.IsNamed (p : Path) : Prop := ∃ name, p.fileName? = some name

/-- The cached profiles have file names. -/
def Catalog.Named (c : Catalog) : Prop := ∀ entry ∈ c.cache, entry.loaded.profile.HasFileName

namespace SearchPaths

variable {s : SearchPaths} {d : Disk} {name path : Path}

/-- A path that is resolved keeps its file name. -/
theorem fileName?_of_resolve? {n : String} (h : s.resolve? d name = some path)
    (hname : name.fileName? = some n) : path.fileName? = some n := by
  unfold resolve? at h
  split at h
  · cases h
  · split at h
    · split at h
      · obtain rfl := Option.some.inj h
        exact hname
      · cases h
    -- a relative path is seen from a directory
    · obtain ⟨dir, -, rfl⟩ := List.mem_map.mp (List.mem_of_find?_eq_some h)
      exact Path.fileName?_join hname dir

theorem isNamed_of_resolve? (h : s.resolve? d name = some path) (hname : name.IsNamed) :
    path.IsNamed := by
  obtain ⟨n, hn⟩ := hname
  exact ⟨n, fileName?_of_resolve? h hn⟩

/-- An absolute path stands for itself. -/
theorem eq_of_resolve?_of_isAbsolute (hname : name.isAbsolute = true)
    (h : s.resolve? d name = some path) : name = path := by
  unfold resolve? at h
  rw [if_pos hname] at h
  split at h
  · cases h
  · split at h
    · exact Option.some.inj h
    · cases h

end SearchPaths

namespace Catalog

variable {paths : SearchPaths} {d : Disk} {path : Path}

/-- A file that is looked for stands below a directory and ends like a profile does. -/
theorem exists_mem_filesIn (h : path ∈ findFiles paths d) :
    ∃ dir ∈ paths.dirs, path ∈ d.filesIn dir ∧ isProfilePath path = true := by
  have hkept := (List.mergeSort_perm _ _).mem_iff.mp h
  have hfound := (firstOfEach_sublist Path.fileName? _).mem hkept
  obtain ⟨dir, hdir, hbelow⟩ := List.mem_flatMap.mp hfound
  exact ⟨dir, hdir, List.mem_filter.mp hbelow⟩

/-- A file that is looked for has a file name. -/
theorem isNamed_of_mem_findFiles (h : path ∈ findFiles paths d) : path.IsNamed := by
  obtain ⟨dir, -, -, hending⟩ := exists_mem_filesIn h
  -- an ending is that of a file name
  unfold isProfilePath Path.extension? at hending
  cases hname : path.fileName? with
  | none =>
      rw [hname] at hending
      cases hending
  | some name => exact ⟨name, hname⟩

end Catalog

namespace Workspace

variable {w : Workspace}

/-- Opening a path with a file name gives a profile with a file name, and what is cached has file
names afterwards as well. -/
theorem openProfile_named (hw : w.catalog.Named) {path : Path} (hpath : path.IsNamed)
    (flags : LoadFlags) :
    (w.openProfile path flags).2.catalog.Named ∧
      ∀ loaded, (w.openProfile path flags).1 = .ok loaded → loaded.profile.HasFileName := by
  rcases w.openProfile_cases path flags with ⟨error, heq⟩ | ⟨file, hfile, hhit | hload⟩
  · rw [heq]
    refine ⟨hw, ?_⟩
    intro loaded h
    cases h
  -- a cached profile
  · obtain ⟨entry, hcached, -, -, heq⟩ := hhit
    rw [heq]
    refine ⟨hw, ?_⟩
    rintro loaded ⟨⟩
    exact hw entry (List.mem_of_find?_eq_some hcached)
  -- a profile that was loaded
  · obtain ⟨profile, disk, -, hprofile, heq⟩ := hload
    have hnamed : profile.HasFileName := by
      obtain ⟨name, hname⟩ := SearchPaths.isNamed_of_resolve? hfile hpath
      exact ⟨file, name, (Profile.load_ok hprofile).1, hname⟩
    rw [heq]
    refine ⟨?_, ?_⟩
    · intro entry hentry
      rcases w.mem_cache_catalogAfter file flags hentry with hkept | rfl
      · exact hw entry hkept
      · exact hnamed
    · rintro loaded ⟨⟩
      exact hnamed

/-- All profiles that are opened have file names when the paths have. -/
theorem openAll_named (flags : LoadFlags) {paths : List Path} (hw : w.catalog.Named)
    (hpaths : ∀ path ∈ paths, path.IsNamed) :
    ∀ loaded ∈ (w.openAll flags paths).1, loaded.profile.HasFileName := by
  induction paths generalizing w with
  | nil =>
      intro loaded h
      exact absurd h List.not_mem_nil
  | cons first rest ih =>
      obtain ⟨hfirst, hrest⟩ := List.forall_mem_cons.mp hpaths
      obtain ⟨hafter, hopened⟩ := openProfile_named hw hfirst flags
      intro loaded h
      simp only [openAll] at h
      cases hresult : (w.openProfile first flags).1 with
      | error error =>
          rw [hresult] at h
          exact ih hafter hrest loaded h
      | ok found =>
          rw [hresult] at h
          rcases List.mem_cons.mp h with rfl | hlater
          · exact hopened _ hresult
          · exact ih hafter hrest loaded hlater

/-- The workspace after the first of several files is opened goes on to the rest. -/
theorem openAll_cons (w : Workspace) (flags : LoadFlags) (first : Path) (rest : List Path) :
    (w.openAll flags (first :: rest)).2 =
      ((w.openProfile first flags).2.openAll flags rest).2 := by
  simp only [openAll]
  split <;> rfl

/-- Opening files leaves the policy and everything that does not hold a profile. -/
theorem openAll_eq (w : Workspace) (flags : LoadFlags) (paths : List Path) :
    (w.openAll flags paths).2.catalog.policy = w.catalog.policy ∧
      w.disk.SameOutsideProfiles (w.openAll flags paths).2.disk := by
  induction paths generalizing w with
  | nil => exact ⟨rfl, .refl w.disk⟩
  | cons first rest ih =>
      obtain ⟨hpolicy, hkept⟩ := ih (w.openProfile first flags).2
      rw [openAll_cons]
      exact ⟨hpolicy.trans (w.openProfile_eq first flags).2,
        (w.sameOutsideProfiles_openProfile first flags).trans hkept⟩

/-- Looking for the known files leaves the policy and the disk. -/
theorem files_eq (w : Workspace) :
    w.files.2.catalog.policy = w.catalog.policy ∧ w.files.2.disk = w.disk := by
  unfold files
  split <;> exact ⟨rfl, rfl⟩

/-- Listing profiles leaves the policy and everything that does not hold a profile. -/
theorem profiles_eq (w : Workspace) (patterns : List Profile) (flags : LoadFlags) :
    (w.profiles patterns flags).2.catalog.policy = w.catalog.policy ∧
      w.disk.SameOutsideProfiles (w.profiles patterns flags).2.disk := by
  obtain ⟨hpolicy, hdisk⟩ := w.files_eq
  rw [← hpolicy, ← hdisk]
  exact openAll_eq _ flags _

/-- Every listed profile was opened. -/
theorem mem_of_mem_profiles {patterns : List Profile} {flags : LoadFlags} {loaded : Loaded}
    (h : loaded ∈ (w.profiles patterns flags).1) :
    loaded ∈ (w.files.2.openAll flags w.files.1).1 := by
  simp only [profiles, byDescription] at h
  obtain ⟨⟨key, found⟩, hsorted, rfl⟩ := List.mem_map.mp h
  obtain ⟨other, hother, heq⟩ := List.mem_map.mp ((List.mergeSort_perm _ _).mem_iff.mp hsorted)
  obtain rfl := (Prod.mk.inj heq).2
  split at hother
  · exact (List.mem_filter.mp hother).1
  · have hkept := (firstOfEach_sublist (fun l : Loaded => l.profile.id) _).mem hother
    exact (List.mem_filter.mp hkept).1

/-- The profiles that a catalog lists when it was not used before have file names. -/
theorem profiles_named (hcache : w.catalog.cache = []) (hknown : w.catalog.known = none)
    (patterns : List Profile) (flags : LoadFlags) :
    ∀ loaded ∈ (w.profiles patterns flags).1, loaded.profile.HasFileName := by
  intro loaded h
  have hopened := mem_of_mem_profiles h
  simp only [files, hknown] at hopened
  refine openAll_named flags ?_ (fun path => Catalog.isNamed_of_mem_findFiles) loaded hopened
  intro entry hentry
  rw [hcache] at hentry
  exact absurd hentry List.not_mem_nil

end Workspace

end IccProfile
