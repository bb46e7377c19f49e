import IccProfile.Proofs.Catalog.Identified
import IccProfile.Proofs.Files.Tree

/-!
# Opening the known files

The known files are listed by their paths below the search directories. A path below a relative
directory is relative, and when it is opened it is looked for below all search directories once
more, before the working directory: a search directory below which there is a file at this path
displaces the file that was listed (`Displaces`). There is no other way to a wrong file
(`resolve?_cases`), and on a directory tree there is always a file that is opened
(`exists_resolve?`).

So a known file is opened exactly when no directory displaces it (`opens_known`), in particular
when all search directories are absolute. Below relative ones a listing can show another profile
than the one that was listed (`other_file_opened`).
-/

set_option autoImplicit false

namespace IccProfile

namespace SearchPaths

variable {s : SearchPaths} {d : Disk} {path file dir : Path}

/-! ## The working directory -/

theorem isAbsolute_workingPath (d : Disk) : (workingPath d).isAbsolute = true := by
  rw [workingPath, Path.ofComponents, Path.isAbsolute, String.toList_append]
  rfl

/-- On a directory tree the path of the working directory has the names of its place. -/
theorem names_workingPath (hd : d.WellFormed) : (workingPath d).names = d.working := by
  have hsegments : (workingPath d).segments =
      Path.segments ⟨""⟩ ++ Path.segments ⟨String.intercalate "/" d.working⟩ := by
    apply Path.segments_of_append
    rw [workingPath, Path.ofComponents, String.toList_append]
    rfl
  have hroot : (Path.segments ⟨""⟩).filter Path.isName = [] := by decide
  rw [Path.names, hsegments, List.filter_append, hroot, List.nil_append, ← Path.names,
    Path.names_intercalate (hd.walk_root hd.working).2]

/-- A relative path stands for the same place when it is seen from the working directory. -/
theorem placeOf_join_workingPath (hd : d.WellFormed) (hpath : path.isAbsolute = false) :
    d.placeOf ((workingPath d).join path) = d.placeOf path := by
  obtain ⟨hwalk, hnames⟩ := hd.walk_root hd.working
  have hplace := Disk.walk_ok hwalk
  rw [List.filter_eq_self.mpr fun n hn => (hnames n hn).isName] at hplace
  rw [Disk.placeOf, Disk.placeOf, Path.isAbsolute_join (isAbsolute_workingPath d), if_pos rfl,
    hpath, if_neg Bool.false_ne_true, Path.names_join_of_relative hpath, names_workingPath hd,
    Disk.follow_append, ← hplace]

/-- So it leads to a file from there. -/
theorem isFile_join_workingPath (hd : d.WellFormed) (hpath : path.isAbsolute = false)
    (hfile : d.isFile path = true) (husable : ((workingPath d).join path).isUsable = true) :
    d.isFile ((workingPath d).join path) = true := by
  obtain ⟨place, content, time, hplace, hentry⟩ := Disk.isFile_iff.mp hfile
  obtain ⟨-, -, hwalk⟩ := Disk.locate_ok_iff.mp hplace
  rw [hpath, if_neg Bool.false_ne_true] at hwalk
  have hstart : d.walk (if (workingPath d).isAbsolute then [] else d.working)
      (workingPath d).names = .ok d.working := by
    rw [isAbsolute_workingPath, if_pos rfl, names_workingPath hd]
    exact (hd.walk_root hd.working).1
  exact Disk.isFile_iff.mpr ⟨place, content, time,
    Disk.locate_join (Path.text_ne_empty_of_isAbsolute (isAbsolute_workingPath d)) hstart hpath
      (Disk.usable_of_isFile hfile).endsInName (Disk.walk_names hwalk) husable, hentry⟩

/-! ## Displaced files -/

/-- A search directory is the first one below which a relative path leads to a file, and this is
not the file at the path itself. -/
structure Displaces (s : SearchPaths) (d : Disk) (path dir : Path) : Prop where
  relative : path.isAbsolute = false
  isFirst : ∃ before after, s.dirs = before ++ dir :: after ∧
    ∀ earlier ∈ before, d.isFile (earlier.join path) = false
  isFile : d.isFile (dir.join path) = true
  elsewhere : d.placeOf (dir.join path) ≠ d.placeOf path

/-- A search directory has another file at a path. -/
def Displaced (s : SearchPaths) (d : Disk) (path : Path) : Prop := ∃ dir, s.Displaces d path dir

theorem not_displaced_of_isAbsolute (hpath : path.isAbsolute = true) : ¬ s.Displaced d path := by
  rintro ⟨dir, hdir⟩
  exact absurd (hpath.symm.trans hdir.relative) (by decide)

/-- The directory that displaces a file is the one that is found for its path. -/
theorem displaces_iff :
    s.Displaces d path dir ↔ path.isAbsolute = false ∧
      s.dirs.find? (fun dir => d.isFile (dir.join path)) = some dir ∧
      d.placeOf (dir.join path) ≠ d.placeOf path := by
  constructor
  · intro h
    obtain ⟨before, after, hdirs, hbefore⟩ := h.isFirst
    refine ⟨h.relative, ?_, h.elsewhere⟩
    refine List.find?_eq_some_iff_append.mpr ⟨h.isFile, before, after, hdirs, ?_⟩
    exact fun earlier hearlier => (Bool.not_eq_true' _).mpr (hbefore earlier hearlier)
  · rintro ⟨hpath, hfind, hplace⟩
    obtain ⟨hfile, before, after, hdirs, hbefore⟩ := List.find?_eq_some_iff_append.mp hfind
    refine ⟨hpath, ⟨before, after, hdirs, ?_⟩, hfile, hplace⟩
    exact fun earlier hearlier => (Bool.not_eq_true' _).mp (hbefore earlier hearlier)

/-- A relative path is the file below the first directory that has one, or else that below the
working directory. -/
theorem resolve?_of_relative (hfilled : path.text ≠ "") (hpath : path.isAbsolute = false) :
    s.resolve? d path =
      ((s.dirs.find? fun dir => d.isFile (dir.join path)).map (·.join path)).or
        ([(workingPath d).join path].find? d.isFile) := by
  rw [resolve?, if_neg hfilled, hpath, if_neg Bool.false_ne_true, List.map_append,
    List.find?_append, List.find?_map]
  rfl

/-- A path leads to its own place, unless a directory displaces the file there. -/
theorem resolve?_cases (hd : d.WellFormed) (h : s.resolve? d path = some file) :
    (d.placeOf file = d.placeOf path ∧ ¬ s.Displaced d path) ∨
      ∃ dir, s.Displaces d path dir ∧ file = dir.join path := by
  cases hpath : path.isAbsolute with
  | true =>
      obtain rfl := eq_of_resolve?_of_isAbsolute hpath h
      exact .inl ⟨rfl, not_displaced_of_isAbsolute hpath⟩
  | false =>
      have hfilled : path.text ≠ "" := by
        intro hempty
        rw [resolve?, if_pos hempty] at h
        cases h
      rw [resolve?_of_relative hfilled hpath] at h
      cases hfind : s.dirs.find? fun dir => d.isFile (dir.join path) with
      -- below the working directory
      | none =>
          rw [hfind, Option.map_none, Option.none_or] at h
          obtain rfl := List.mem_singleton.mp (List.mem_of_find?_eq_some h)
          refine .inl ⟨placeOf_join_workingPath hd hpath, ?_⟩
          rintro ⟨dir, hdir⟩
          obtain ⟨-, hfirst, -⟩ := displaces_iff.mp hdir
          cases hfind.symm.trans hfirst
      -- below a search directory
      | some dir =>
          rw [hfind, Option.map_some, Option.some_or, Option.some.injEq] at h
          subst h
          by_cases hplace : d.placeOf (dir.join path) = d.placeOf path
          · refine .inl ⟨hplace, ?_⟩
            rintro ⟨other, hother⟩
            obtain ⟨-, hfirst, helsewhere⟩ := displaces_iff.mp hother
            obtain rfl := Option.some.inj (hfind.symm.trans hfirst)
            exact helsewhere hplace
          · exact .inr ⟨dir, displaces_iff.mpr ⟨hpath, hfind, hplace⟩, rfl⟩

/-- The file that a path leads to is its own exactly when none displaces it. -/
theorem placeOf_eq_iff (hd : d.WellFormed) (h : s.resolve? d path = some file) :
    d.placeOf file = d.placeOf path ↔ ¬ s.Displaced d path := by
  rcases resolve?_cases hd h with ⟨hplace, hfree⟩ | ⟨dir, hdir, rfl⟩
  · exact ⟨fun _ => hfree, fun _ => hplace⟩
  · exact ⟨fun hplace => absurd hplace hdir.elsewhere, fun hfree => absurd ⟨dir, hdir⟩ hfree⟩

/-- A path leads to some file when there is one at the path itself. -/
theorem exists_resolve? (hd : d.WellFormed) (hfile : d.isFile path = true)
    (husable : ((workingPath d).join path).isUsable = true) :
    ∃ file, s.resolve? d path = some file := by
  have hfilled := (Disk.usable_of_isFile hfile).ne_empty
  cases hpath : path.isAbsolute with
  | true => exact ⟨path, by rw [resolve?, if_neg hfilled, if_pos hpath, if_pos hfile]⟩
  | false =>
      rw [resolve?_of_relative hfilled hpath, List.find?_singleton,
        if_pos (isFile_join_workingPath hd hpath hfile husable), Option.or_some]
      exact ⟨_, rfl⟩

end SearchPaths

namespace Workspace

open Catalog (Tidy findFiles)
open Profile (Backs)
open SearchPaths (workingPath)

variable {refusing : Place → Prop} {w : Workspace} {d : Disk} {path file : Path}

/-! ## Known files -/

/-- The known files were listed on a disk that has its files where the disk has them now. -/
structure ListedOn (w : Workspace) (d : Disk) : Prop where
  files_eq : w.files.1 = findFiles w.catalog.paths d
  sameShape : Disk.SameShape d w.disk

theorem ListedOn.resolve?_eq (h : w.ListedOn d) (name : Path) :
    w.resolve? name = w.catalog.paths.resolve? d name :=
  SearchPaths.resolve?_of_sameShape h.sameShape w.catalog.paths name

/-- The file of a known path is its own exactly when none displaces it. -/
theorem ListedOn.placeOf_eq_iff (h : w.ListedOn d) (hd : d.WellFormed)
    (hfile : w.resolve? path = some file) :
    d.placeOf file = d.placeOf path ↔ ¬ w.catalog.paths.Displaced d path :=
  SearchPaths.placeOf_eq_iff hd (h.resolve?_eq path ▸ hfile)

/-- A catalog in use that has listed its files is tidy. -/
theorem ListedOn.tidy (h : w.ListedOn d) (hw : Used refusing w) : Tidy w.catalog where
  fileName_eq := fun entry hentry => (hw.trusted.upToDate entry hentry).fileName_eq
  known_eq := by
    intro files hknown
    refine ⟨d, ?_⟩
    rw [← h.files_eq, Workspace.files, hknown]

/-- A known path that can be looked up leads to a file, wherever this stands. -/
theorem ListedOn.exists_resolve? (h : w.ListedOn d) (hd : d.WellFormed) (hpath : path ∈ w.files.1)
    (husable : ((workingPath d).join path).isUsable = true) :
    ∃ file, w.resolve? path = some file := by
  rw [h.files_eq] at hpath
  obtain ⟨dir, -, hlisted, -⟩ := Catalog.exists_mem_filesIn hpath
  rw [h.resolve?_eq]
  exact SearchPaths.exists_resolve? hd
    (Disk.isFile_of_mem_filesIn hd hlisted (Path.isUsable_of_join husable)) husable

/-- What becomes of the known files when they are opened. -/
structure OpensKnown (refusing : Place → Prop) (w : Workspace) (d : Disk) : Prop where
  /-- Each path leads to a file, and to its own one exactly when no directory displaces it. -/
  leads : ∀ path ∈ w.files.1, ((workingPath d).join path).isUsable = true →
    ∃ file, w.resolve? path = some file ∧
      (d.placeOf file = d.placeOf path ↔ ¬ w.catalog.paths.Displaced d path)
  /-- So the profile of a path comes from its own file exactly then. -/
  answers : ∀ path ∈ w.files.1, ∀ flags p, w.answer? flags path = some p →
    ∃ own, p.fileName = some own ∧
      (d.placeOf own = d.placeOf path ↔ ¬ w.catalog.paths.Displaced d path)
  /-- It is what its own file holds after it was opened with regard to the time, but for an ID
  whose repair was refused. -/
  holds : ∀ path ∈ w.files.1, ∀ flags p, flags.skipTimeCheck = false →
    w.answer? flags path = some p → ¬ w.catalog.paths.Displaced d path →
      ∃ content data time, p.Holds data ∧ Backs refusing (d.placeOf path) content data ∧
        (w.openProfile path flags).2.disk.entry? (d.placeOf path) = some (.file content time)
  /-- And there is such a profile when its own file is accepted. -/
  opens : ∀ path ∈ w.files.1, ((workingPath d).join path).isUsable = true →
    ¬ w.catalog.paths.Displaced d path → ∀ flags data time, flags.skipTimeCheck = false →
      w.disk.entry? (d.placeOf path) = some (.file data time) → Profile.Accepted data →
        flags.accepts (data.getD 8 0) = true → ∃ p, w.answer? flags path = some p
  /-- A listing shows what single paths are answered with. -/
  listed : ∀ patterns flags, ∀ p ∈ (w.profiles patterns flags).1.map (·.profile),
    ∃ path ∈ w.files.1, w.answer? flags path = some p
  /-- Below absolute directories no file is displaced. -/
  absolute : (∀ dir ∈ w.catalog.paths.dirs, dir.isAbsolute = true) →
    ∀ path ∈ w.files.1, ¬ w.catalog.paths.Displaced d path

/-- A known file is what its path opens, as long as no search directory displaces it; else another
file is opened in its place. -/
theorem opens_known (hw : Used refusing w) (hd : d.WellFormed) (hlisted : w.ListedOn d) :
    OpensKnown refusing w d where
  leads := by
    intro path hpath husable
    obtain ⟨file, hfile⟩ := hlisted.exists_resolve? hd hpath husable
    exact ⟨file, hfile, hlisted.placeOf_eq_iff hd hfile⟩
  answers := by
    intro path _ flags p hanswer
    obtain ⟨file, own, hfile, hown, hsame⟩ :=
      resolve?_of_answer? (hlisted.tidy hw) hanswer
    refine ⟨own, hown, ?_⟩
    rw [Disk.placeOf_eq_of_same d hsame]
    exact hlisted.placeOf_eq_iff hd hfile
  holds := by
    intro path _ flags p hskip hanswer hfree
    obtain ⟨loaded, v, hopen, rfl⟩ := answer?_eq_some_iff.mp hanswer
    obtain ⟨file, own, content, data, hfile, -, -, hfrom, -⟩ := hw.trusted.answer hskip hopen
    have hworking : v.disk.working = d.working := by
      have hafter := (w.sameOutsideProfiles_openProfile path flags).working_eq
      rw [hopen] at hafter
      exact hafter.trans hlisted.sameShape.working_eq
    have hplace : v.disk.placeOf file = d.placeOf path :=
      (Disk.placeOf_eq_of_working hworking file).trans
        ((hlisted.placeOf_eq_iff hd hfile).mpr hfree)
    obtain ⟨time, hentry, -⟩ := Disk.entry_placeOf_of_read hfrom.read_eq
    have hbacks := hfrom.backs
    rw [hplace] at hentry hbacks
    rw [hopen]
    exact ⟨content, data, time, hfrom.holds, hbacks, hentry⟩
  opens := by
    intro path hpath husable hfree flags data time hskip hentry haccepted hversion
    obtain ⟨file, hfile⟩ := hlisted.exists_resolve? hd hpath husable
    obtain ⟨content, _, hread, -, hheld⟩ :=
      Disk.read_of_isFile (SearchPaths.isFile_of_resolve? hfile)
    rw [Disk.placeOf_eq_of_working hlisted.sameShape.working_eq,
      (hlisted.placeOf_eq_iff hd hfile).mpr hfree, hentry] at hheld
    cases hheld
    exact hw.trusted.exists_answer? hskip hfile hread haccepted hversion
  listed := by
    intro patterns flags p hp
    rw [fst_profiles] at hp
    have hselected := ((perm_byDescription (w.selected patterns flags)).map _).mem_iff.mp hp
    exact (mem_candidates_iff.mp
      ((map_selected_sublist (hlisted.tidy hw) patterns flags).mem hselected)).2
  absolute := by
    intro hdirs path hpath
    rw [hlisted.files_eq] at hpath
    exact SearchPaths.not_displaced_of_isAbsolute (Catalog.isAbsolute_of_mem_findFiles hdirs hpath)

/-- A working directory with a profile below the first of two directories that are searched. -/
def nook : Workspace where
  catalog := { paths := ⟨[⟨"d"⟩, ⟨"e"⟩]⟩ }
  disk :=
    { entries :=
        [(["w"], .directory), (["w", "d"], .directory), (["w", "e"], .directory),
          (["w", "d", "a.icc"], .file Profile.shortest 1)]
      working := ["w"]
      clock := 1 }

theorem wellFormed_nook : nook.disk.WellFormed := by
  constructor <;> decide +kernel

theorem opens_known_nook :
    OpensKnown (fun _ => False) nook nook.disk ∧ nook.files.1 = [⟨"d/a.icc"⟩] ∧
      nook.resolve? ⟨"d/a.icc"⟩ = some ⟨"/w/d/a.icc"⟩ ∧
      (nook.profiles [] {}).1.map (·.profile.fileName) = [some ⟨"/w/d/a.icc"⟩] := by
  have hused : Used (fun _ => False) nook :=
    .start rfl (Disk.timely_of_entries (by decide +kernel)) (refusesAt_of_unlocked rfl)
  refine ⟨opens_known hused wellFormed_nook ⟨rfl, Disk.sameShape_refl _⟩, ?_, ?_, ?_⟩ <;>
    decide +kernel

/-- The profile with something else in the place of its ID. -/
def relabeled : Bytes := ProfileId.stamp ⟨List.replicate 16 2, rfl⟩ Profile.shortest

theorem accepted_relabeled : Profile.Accepted relabeled :=
  (Profile.accepted_stamp_iff _).mpr Profile.accepted_shortest

/-- The same directories, with another profile of this name in a directory of the same name below
the second one. -/
def nest : Workspace where
  catalog := nook.catalog
  disk :=
    { nook.disk with
      entries := nook.disk.entries ++
        [(["w", "e", "d"], .directory), (["w", "e", "d", "a.icc"], .file relabeled 1)] }

/-- The other profile as it is opened. -/
def nestling : Profile :=
  { Profile.fresh relabeled accepted_relabeled.headerSize_le with fileName := some ⟨"e/d/a.icc"⟩ }

/-- The second directory displaces the file that was listed below the first one. -/
theorem other_file_opened :
    Used (fun _ => False) nest ∧ nest.disk.WellFormed ∧ nest.files.1 = [⟨"d/a.icc"⟩] ∧
      nest.disk.read ⟨"d/a.icc"⟩ = .ok Profile.shortest ∧
      nest.answer? {} ⟨"d/a.icc"⟩ = some nestling ∧
      (nest.profiles [] {}).1.map (·.profile) = [nestling] ∧
      nestling.raw = some relabeled ∧ relabeled ≠ Profile.shortest := by
  refine ⟨.start rfl (Disk.timely_of_entries (by decide +kernel)) (refusesAt_of_unlocked rfl), ?_,
    ?_, rfl, ?_, ?_, rfl, ?_⟩
  · constructor <;> decide +kernel
  all_goals decide +kernel

end Workspace

end IccProfile
