import IccProfile.Proofs.Catalog.Listing
import IccProfile.Proofs.Sorting

/-!
# The list of profile files

The files below the search paths are found by a walk over the directories (`walked`). The
list has of each file name the first file that was found, and the names ascend
(`IsFileList`, `isFileList_findFiles`). Below absolute directories all paths are absolute
(`isAbsolute_of_mem_findFiles`).
-/

set_option autoImplicit false

namespace IccProfile

namespace Catalog

variable {paths : SearchPaths} {d : Disk} {path : Path}

/-- The profile files below the search paths, in the order in which they are found. -/
def walked (paths : SearchPaths) (d : Disk) : List Path := paths.dirs.flatMap (profileFiles d)

/-- A list has of each file name the first file that was found, and the names ascend. -/
structure IsFileList (found files : List Path) : Prop where
  ascends : files.Pairwise fun p q =>
    ∃ m n, p.fileName? = some m ∧ q.fileName? = some n ∧ m < n
  mem_iff : ∀ path, path ∈ files ↔ found.find? (·.fileName? = path.fileName?) = some path

theorem nameNotAfter_iff {p q : Path} {m n : String} (hp : p.fileName? = some m)
    (hq : q.fileName? = some n) : nameNotAfter p q = true ↔ m ≤ n := by
  unfold nameNotAfter
  rw [hp, hq]
  simp only [decide_eq_true_eq, String.not_lt]

theorem nameNotAfter_trans (p q r : Path) (hpq : nameNotAfter p q = true)
    (hqr : nameNotAfter q r = true) : nameNotAfter p r = true := by
  cases hp : p.fileName? with
  | none => rw [nameNotAfter, hp]
  | some l =>
      cases hq : q.fileName? with
      | none =>
          rw [nameNotAfter, hp, hq] at hpq
          cases hpq
      | some m =>
          cases hr : r.fileName? with
          | none =>
              rw [nameNotAfter, hq, hr] at hqr
              cases hqr
          | some n =>
              rw [nameNotAfter_iff hp hq] at hpq
              rw [nameNotAfter_iff hq hr] at hqr
              exact (nameNotAfter_iff hp hr).mpr (String.le_trans hpq hqr)

theorem nameNotAfter_total (p q : Path) : (nameNotAfter p q || nameNotAfter q p) = true := by
  rw [Bool.or_eq_true]
  cases hp : p.fileName? with
  | none =>
      left
      rw [nameNotAfter, hp]
  | some m =>
      cases hq : q.fileName? with
      | none =>
          right
          rw [nameNotAfter, hq]
      | some n =>
          rw [nameNotAfter_iff hp hq, nameNotAfter_iff hq hp]
          exact String.le_total m n

theorem findFiles_eq (paths : SearchPaths) (d : Disk) :
    findFiles paths d = (firstOfEach Path.fileName? (walked paths d)).mergeSort nameNotAfter :=
  rfl

/-- The list is made by inserting one file after the other by its name. -/
theorem findFiles_eq_insertionSort (paths : SearchPaths) (d : Disk) :
    findFiles paths d =
      (firstOfEach Path.fileName? (walked paths d)).insertionSort
        fun p q => nameNotAfter p q = true := by
  rw [findFiles_eq, mergeSort_eq_insertionSort nameNotAfter_trans nameNotAfter_total]

theorem isFileList_findFiles (paths : SearchPaths) (d : Disk) :
    IsFileList (walked paths d) (findFiles paths d) where
  ascends := by
    have hsorted : (findFiles paths d).Pairwise fun p q => nameNotAfter p q = true :=
      List.pairwise_mergeSort nameNotAfter_trans nameNotAfter_total _
    have hdiffers : (findFiles paths d).Pairwise fun p q => p.fileName? ≠ q.fileName? :=
      (List.mergeSort_perm _ _).symm.pairwise (pairwise_firstOfEach Path.fileName? _)
        fun hne => hne.symm
    refine (hsorted.and hdiffers).imp_of_mem ?_
    rintro p q hp hq ⟨hnotAfter, hne⟩
    obtain ⟨m, hm⟩ := isNamed_of_mem_findFiles hp
    obtain ⟨n, hn⟩ := isNamed_of_mem_findFiles hq
    rw [nameNotAfter_iff hm hn] at hnotAfter
    refine ⟨m, n, hm, hn, String.not_le.mp fun hle => hne ?_⟩
    rw [hm, hn, String.le_antisymm hnotAfter hle]
  mem_iff := by
    intro path
    rw [findFiles_eq, (List.mergeSort_perm _ _).mem_iff, mem_firstOfEach_iff]

/-- Below absolute directories all paths are absolute. -/
theorem isAbsolute_of_mem_findFiles (hpaths : ∀ dir ∈ paths.dirs, dir.isAbsolute = true)
    (h : path ∈ findFiles paths d) : path.isAbsolute = true := by
  obtain ⟨dir, hdir, hfile, -⟩ := exists_mem_filesIn h
  obtain ⟨-, names, -, -, -, -, -, rfl⟩ := Disk.of_mem_filesIn hfile
  exact Path.isAbsolute_join (hpaths dir hdir) _

/-! ## Known files -/

/-- The catalogs in use, each step on any disk. -/
inductive Reached : Catalog → Prop
  | start {c : Catalog} (hcache : c.cache = []) (hknown : c.known = none) : Reached c
  | openProfile {w : Workspace} (name : Path) (flags : LoadFlags) (h : Reached w.catalog) :
      Reached (w.openProfile name flags).2.catalog
  | files {w : Workspace} (h : Reached w.catalog) : Reached w.files.2.catalog
  | clear {c : Catalog} (h : Reached c) : Reached c.clear

/-- The cached profiles carry their paths, and the known files were found below the search
paths. -/
structure Tidy (c : Catalog) : Prop where
  fileName_eq : ∀ entry ∈ c.cache, entry.loaded.profile.fileName = some entry.path
  known_eq : ∀ files, c.known = some files → ∃ d, files = findFiles c.paths d

theorem Tidy.openProfile {w : Workspace} (h : Tidy w.catalog) (name : Path) (flags : LoadFlags) :
    Tidy (w.openProfile name flags).2.catalog := by
  rcases w.snd_openProfile name flags with heq | ⟨path, profile, disk, hprofile, heq⟩
  · rw [heq]
    exact h
  · rw [heq]
    refine ⟨?_, ?_⟩
    · intro entry hentry
      rcases w.mem_cache_catalogAfter path flags hentry with hkept | rfl
      · exact h.fileName_eq entry hkept
      · exact (Profile.load_ok hprofile).1
    · intro files hfiles
      simp only [w.known_catalogAfter path flags] at hfiles
      simp only [(w.catalogAfter_eq path flags profile disk).1]
      exact h.known_eq files hfiles

theorem Reached.tidy {c : Catalog} (h : Reached c) : Tidy c := by
  induction h with
  | start hcache hknown =>
      refine ⟨?_, ?_⟩
      · intro entry hentry
        rw [hcache] at hentry
        exact absurd hentry List.not_mem_nil
      · intro files hfiles
        rw [hknown] at hfiles
        cases hfiles
  | openProfile name flags _ ih => exact ih.openProfile name flags
  | @files w _ ih =>
      unfold Workspace.files
      split
      · exact ih
      · refine ⟨ih.fileName_eq, ?_⟩
        intro files hfiles
        exact ⟨w.disk, (Option.some.inj hfiles).symm⟩
  | clear _ ih =>
      refine ⟨fun entry hentry => absurd hentry List.not_mem_nil, ?_⟩
      intro files hfiles
      cases hfiles

end Catalog

namespace Workspace

open Catalog (Tidy findFiles)

variable {w : Workspace}

/-- Files that are not known yet are looked for. -/
theorem files_of_unknown (h : w.catalog.known = none) :
    w.files.1 = findFiles w.catalog.paths w.disk := by
  rw [files, h]

/-- The known files were found on some disk, on the present one when they are asked for. -/
theorem files_eq_findFiles (h : Tidy w.catalog) :
    ∃ d, (w.catalog.known = none → d = w.disk) ∧ w.files.1 = findFiles w.catalog.paths d := by
  cases hknown : w.catalog.known with
  | none => exact ⟨w.disk, fun _ => rfl, files_of_unknown hknown⟩
  | some known =>
      obtain ⟨d, hfound⟩ := h.known_eq known hknown
      rw [files, hknown]
      exact ⟨d, fun hnone => absurd hnone (Option.some_ne_none known), hfound⟩

/-- No two of the paths have one file name. -/
def DifferentNames (paths : List Path) : Prop :=
  (∀ path ∈ paths, path.IsNamed) ∧ paths.Pairwise fun p q => p.fileName? ≠ q.fileName?

theorem DifferentNames.tail {first : Path} {rest : List Path}
    (h : DifferentNames (first :: rest)) : DifferentNames rest :=
  ⟨(List.forall_mem_cons.mp h.1).2, (List.pairwise_cons.mp h.2).2⟩

/-- The known files have different names. -/
theorem differentNames_files (h : Tidy w.catalog) : DifferentNames w.files.1 := by
  obtain ⟨d, -, hfiles⟩ := files_eq_findFiles h
  rw [hfiles]
  refine ⟨fun path => Catalog.isNamed_of_mem_findFiles, ?_⟩
  refine (Catalog.isFileList_findFiles w.catalog.paths d).ascends.imp ?_
  rintro p q ⟨m, n, hm, hn, hlt⟩ heq
  rw [hm, hn, Option.some.injEq] at heq
  rw [heq] at hlt
  exact String.lt_irrefl n hlt

end Workspace

end IccProfile
