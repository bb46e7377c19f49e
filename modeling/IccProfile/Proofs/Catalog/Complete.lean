import IccProfile.Proofs.Catalog.Separate
import IccProfile.Proofs.Profile.Representation

/-!
# Complete listings

A listing opens the profile files one after the other, leaves out the profiles that are not
wanted and those whose identity was there before, and sorts the rest by description. The
files have different names, so each of them is answered as it would be alone (`candidates`).

`IsListing` says what a listing is, and `isListing_profiles` that every catalog in use
(`Reached`) makes one, whatever happened to the files in the meantime. A pattern, a file name
and an identity each leave a profile out of the listing of the `closet`.
-/

set_option autoImplicit false

namespace IccProfile

namespace Workspace

open Catalog (walked IsFileList Reached Tidy findFiles)

variable {w : Workspace} {flags : LoadFlags} {path : Path} {patterns : List Profile} {p : Profile}
  {found : List Loaded}

/-! ## Files -/

/-- Asking for the known files does not affect what is opened. -/
theorem answer?_files (w : Workspace) (flags : LoadFlags) :
    w.files.2.answer? flags = w.answer? flags := by
  funext path
  unfold files
  split
  · rfl
  · exact answer?_congr rfl fun _ _ => ⟨rfl, rfl, rfl⟩

/-- What a name is answered with carries a path of the components of its file. -/
theorem resolve?_of_answer? (h : Tidy w.catalog) (hanswer : w.answer? flags path = some p) :
    ∃ file own, w.resolve? path = some file ∧ p.fileName = some own ∧ own.same file = true := by
  obtain ⟨loaded, v, hopen, rfl⟩ := answer?_eq_some_iff.mp hanswer
  obtain ⟨file, hfile, hhit | ⟨profile, disk, hload, rfl, rfl⟩⟩ := openProfile_ok hopen
  · obtain ⟨-, -, entry, hentry, hsame, -, -, rfl⟩ := hhit
    exact ⟨file, entry.path, hfile, h.fileName_eq entry hentry, hsame⟩
  · exact ⟨file, file, hfile, (Profile.load_ok hload).1, decide_eq_true rfl⟩

/-- An absolute path is that of its file. -/
theorem fileName_of_answer? (h : Tidy w.catalog) (hpath : path.isAbsolute = true)
    (hanswer : w.answer? flags path = some p) :
    ∃ own, p.fileName = some own ∧ own.same path = true := by
  obtain ⟨file, own, hfile, hown, hsame⟩ := resolve?_of_answer? h hanswer
  obtain rfl := SearchPaths.eq_of_resolve?_of_isAbsolute hpath hfile
  exact ⟨own, hown, hsame⟩

/-! ## Order -/

/-- The text by which a profile is ordered. -/
def titleOf (p : Profile) : String := Text.lowerCase (p.description.getD "")

/-- The order of titles. -/
def notAfter (a b : String) : Bool := ¬ b < a

theorem notAfter_iff {a b : String} : notAfter a b = true ↔ a ≤ b := by
  rw [notAfter, decide_eq_true_eq, String.not_lt]

theorem notAfter_trans (a b c : String) (hab : notAfter a b = true) (hbc : notAfter b c = true) :
    notAfter a c = true := by
  rw [notAfter_iff] at hab hbc ⊢
  exact String.le_trans hab hbc

theorem notAfter_total (a b : String) : (notAfter a b || notAfter b a) = true := by
  rw [Bool.or_eq_true, notAfter_iff, notAfter_iff]
  exact String.le_total a b

theorem byDescription_eq (found : List Loaded) :
    byDescription found = (sortedByKey notAfter orderKey found).map (·.2) := rfl

/-- Ordering is inserting one profile after the other by its title. -/
theorem byDescription_eq_insertionSort (found : List Loaded) :
    byDescription found =
      ((found.map fun l => (orderKey l, l)).insertionSort
        fun a b => notAfter a.1 b.1 = true).map (·.2) := by
  rw [byDescription_eq, sortedByKey_eq_insertionSort orderKey found notAfter_trans notAfter_total]

/-- Ordering leaves out nothing. -/
theorem perm_byDescription (found : List Loaded) : (byDescription found).Perm found :=
  perm_map_snd_sortedByKey notAfter orderKey found

/-- The titles ascend. -/
theorem pairwise_byDescription (found : List Loaded) :
    (byDescription found).Pairwise fun k l => orderKey k ≤ orderKey l := by
  rw [byDescription_eq, List.pairwise_map]
  refine (pairwise_sortedByKey orderKey found notAfter_trans notAfter_total).imp_of_mem ?_
  intro a b ha hb hab
  rw [← fst_of_mem_sortedByKey _ _ _ ha, ← fst_of_mem_sortedByKey _ _ _ hb]
  exact notAfter_iff.mp hab

/-- Profiles of one title stay in their order. -/
theorem filter_byDescription (found : List Loaded) (title : String) :
    (byDescription found).filter (orderKey · = title) = found.filter (orderKey · = title) := by
  have hsame : ∀ entry ∈ sortedByKey notAfter orderKey found,
      ((fun l : Loaded => decide (orderKey l = title)) ∘ fun x => x.2) entry =
        decide (entry.1 = title) := by
    intro entry hentry
    rw [fst_of_mem_sortedByKey _ _ _ hentry]
    rfl
  rw [byDescription_eq, List.filter_map, List.filter_congr hsame]
  exact filter_sortedByKey orderKey found notAfter_trans notAfter_total title

/-! ## Listings -/

/-- A profile is wanted when there are no patterns or it fits one of them. -/
theorem wanted_iff {policy : RankPolicy} :
    wanted patterns policy p = true ↔
      patterns = [] ∨ ∃ pattern ∈ patterns, Matching.patternMatches pattern p policy = true := by
  rw [wanted, Bool.or_eq_true, List.isEmpty_iff, List.any_eq_true]

/-- The profiles that fit one of the patterns, or all when there are none, in the order of their
files. -/
def candidates (w : Workspace) (patterns : List Profile) (flags : LoadFlags) : List Profile :=
  (w.files.1.filterMap (w.answer? flags)).filter fun p =>
    patterns = [] ∨ ∃ pattern ∈ patterns, Matching.patternMatches pattern p w.catalog.policy = true

theorem mem_candidates_iff :
    p ∈ w.candidates patterns flags ↔
      (patterns = [] ∨
        ∃ pattern ∈ patterns, Matching.patternMatches pattern p w.catalog.policy = true) ∧
      ∃ path ∈ w.files.1, w.answer? flags path = some p := by
  rw [candidates, List.mem_filter, List.mem_filterMap, decide_eq_true_eq, and_comm]

/-- What a listing is. -/
structure IsListing (w : Workspace) (patterns : List Profile) (flags : LoadFlags)
    (listed : List Profile) : Prop where
  /-- Each profile fits one of the patterns, if there are any, and was opened from a file. -/
  opened : ∀ p ∈ listed,
    (patterns = [] ∨
      ∃ pattern ∈ patterns, Matching.patternMatches pattern p w.catalog.policy = true) ∧
    ∃ path ∈ w.files.1, w.answer? flags path = some p ∧
      ∃ own, p.fileName = some own ∧ own.same path = true
  /-- Of the identity of each such profile the first one is there. -/
  complete : ∀ path ∈ w.files.1, ∀ p, w.answer? flags path = some p →
    (patterns = [] ∨
      ∃ pattern ∈ patterns, Matching.patternMatches pattern p w.catalog.policy = true) →
    ∃ q ∈ listed, (w.candidates patterns flags).find? (·.id = p.id) = some q
  /-- All of them are there when duplicates are. -/
  duplicates : flags.allowDuplicates = true → listed.Perm (w.candidates patterns flags)
  /-- Else no identity is there twice. -/
  distinct : flags.allowDuplicates = false → listed.Pairwise fun p q => p.id ≠ q.id
  ascends : listed.Pairwise fun p q => titleOf p ≤ titleOf q
  /-- Profiles of one title stand in the order of their files. -/
  ties : ∀ title, (listed.filter (titleOf · = title)).Sublist (w.candidates patterns flags)

/-- The profiles that are wanted, as they are opened. -/
def opened (w : Workspace) (patterns : List Profile) (flags : LoadFlags) : List Loaded :=
  (w.files.2.openAll flags w.files.1).1.filter fun l =>
    wanted patterns w.catalog.policy l.profile

/-- The profiles of a listing before they are ordered. -/
def selected (w : Workspace) (patterns : List Profile) (flags : LoadFlags) : List Loaded :=
  if flags.allowDuplicates then w.opened patterns flags
  else firstOfEachId (w.opened patterns flags)

theorem fst_profiles (w : Workspace) (patterns : List Profile) (flags : LoadFlags) :
    (w.profiles patterns flags).1 = byDescription (w.selected patterns flags) := by
  simp only [profiles, selected, opened, (openAll_eq w.files.2 flags w.files.1).1, w.files_eq.1]

theorem map_opened (h : Tidy w.catalog) (patterns : List Profile) (flags : LoadFlags) :
    (w.opened patterns flags).map (·.profile) = w.candidates patterns flags := by
  rw [candidates, ← w.answer?_files, ← map_openAll (differentNames_files h) flags,
    List.filter_map, opened]
  refine congrArg (List.map _) (List.filter_congr fun l _ => ?_)
  rw [Bool.eq_iff_iff, wanted_iff, Function.comp_apply, decide_eq_true_eq]

theorem selected_sublist (w : Workspace) (patterns : List Profile) (flags : LoadFlags) :
    (w.selected patterns flags).Sublist (w.opened patterns flags) := by
  unfold selected
  split
  · exact List.Sublist.refl _
  · exact firstOfEach_sublist (fun l : Loaded => l.profile.id) _

/-- The selected profiles stand in the order of their files. -/
theorem map_selected_sublist (h : Tidy w.catalog) (patterns : List Profile) (flags : LoadFlags) :
    ((w.selected patterns flags).map (·.profile)).Sublist (w.candidates patterns flags) := by
  rw [← map_opened h]
  exact (w.selected_sublist patterns flags).map _

/-- The first profile of an identity is selected. -/
theorem mem_selected_of_find? {id : ProfileId} {loaded : Loaded}
    (h : (w.opened patterns flags).find? (·.profile.id = id) = some loaded) :
    loaded ∈ w.selected patterns flags := by
  unfold selected
  split
  · exact List.mem_of_find?_eq_some h
  · rw [← find?_firstOfEach (fun l : Loaded => l.profile.id)] at h
    exact List.mem_of_find?_eq_some h

/-- So there is a selected profile of each identity. -/
theorem exists_selected (h : Tidy w.catalog) (hp : p ∈ w.candidates patterns flags) :
    ∃ loaded ∈ w.selected patterns flags,
      (w.candidates patterns flags).find? (·.id = p.id) = some loaded.profile := by
  cases hfind : (w.candidates patterns flags).find? (·.id = p.id) with
  | none => exact absurd (decide_eq_true rfl) (List.find?_eq_none.mp hfind p hp)
  | some first =>
      rw [← map_opened h, List.find?_map] at hfind
      obtain ⟨loaded, hloaded, rfl⟩ := Option.map_eq_some_iff.mp hfind
      exact ⟨loaded, mem_selected_of_find? hloaded, rfl⟩

/-- No two of them have one identity, unless duplicates are allowed. -/
theorem pairwise_selected (h : flags.allowDuplicates = false) :
    (w.selected patterns flags).Pairwise fun k l => k.profile.id ≠ l.profile.id := by
  rw [selected, if_neg (by rw [h]; decide)]
  exact pairwise_firstOfEach (fun l : Loaded => l.profile.id) _

/-- The list of files has of each file name the first one that was found. The listing opens each
file as it would be opened alone, shows every profile that is wanted or the first one of its
identity, and is ordered by description. -/
theorem isListing_profiles (h : Reached w.catalog)
    (hpaths : ∀ dir ∈ w.catalog.paths.dirs, dir.isAbsolute = true) (patterns : List Profile)
    (flags : LoadFlags) :
    (∃ d, (w.catalog.known = none → d = w.disk) ∧
        IsFileList (walked w.catalog.paths d) w.files.1) ∧
      IsListing w patterns flags ((w.profiles patterns flags).1.map (·.profile)) := by
  have htidy := h.tidy
  obtain ⟨d, hnow, hfiles⟩ := files_eq_findFiles htidy
  have hperm := perm_byDescription (w.selected patterns flags)
  have hsublist := map_selected_sublist htidy patterns flags
  refine ⟨⟨d, hnow, ?_⟩, ?_⟩
  · rw [hfiles]
    exact Catalog.isFileList_findFiles w.catalog.paths d
  rw [fst_profiles]
  constructor
  case opened =>
      intro p hp
      obtain ⟨hfits, path, hpath, hanswer⟩ :=
        mem_candidates_iff.mp (hsublist.mem ((hperm.map _).mem_iff.mp hp))
      refine ⟨hfits, path, hpath, hanswer, fileName_of_answer? htidy ?_ hanswer⟩
      rw [hfiles] at hpath
      exact Catalog.isAbsolute_of_mem_findFiles hpaths hpath
  case complete =>
      intro path hpath p hanswer hfits
      obtain ⟨loaded, hloaded, hfirst⟩ :=
        exists_selected htidy (mem_candidates_iff.mpr ⟨hfits, path, hpath, hanswer⟩)
      exact ⟨loaded.profile, List.mem_map_of_mem (hperm.mem_iff.mpr hloaded), hfirst⟩
  case duplicates =>
      intro hduplicates
      rw [← map_opened htidy]
      refine (hperm.map _).trans ?_
      rw [selected, if_pos hduplicates]
  case distinct =>
      intro hduplicates
      rw [List.pairwise_map]
      exact hperm.symm.pairwise (pairwise_selected hduplicates) fun hne => hne.symm
  case ascends =>
      rw [List.pairwise_map]
      exact pairwise_byDescription _
  case ties =>
      intro title
      rw [List.filter_map]
      have hkept : (byDescription (w.selected patterns flags)).filter (orderKey · = title) =
          (w.selected patterns flags).filter (orderKey · = title) := filter_byDescription _ title
      refine (List.Sublist.map _ ?_).trans hsublist
      exact hkept ▸ List.filter_sublist

/-- The container of a profile of version 2 with a class, an ID of one byte, and one tag. -/
def singleTag (kind : ProfileClass) (mark : UInt8) (signature : Signature) (block : Bytes) :
    Bytes :=
  Bytes.ofSize (144 + block.length) ++ List.replicate 4 0 ++ [2, 0, 0, 0]
    ++ Bytes.ofWord32 kind.signature ++ List.replicate 20 0
    ++ Bytes.ofWord32 Signature.magic ++ List.replicate 44 0 ++ List.replicate 16 mark
    ++ List.replicate 28 0 ++ Bytes.ofSize 1
    ++ Bytes.ofWord32 signature ++ Bytes.ofSize 144 ++ Bytes.ofSize block.length ++ block

/-- The container with a description. -/
def titled (kind : ProfileClass) (mark : UInt8) (title : String) : Bytes :=
  singleTag kind mark Signature.description (DescriptionText.encode title)

/-- Directories with files of one name, files of one identity, profiles of one title, and a profile
of another class. -/
def closet : Workspace where
  catalog := { paths := ⟨[⟨"/p"⟩, ⟨"/q"⟩, ⟨"/r"⟩, ⟨"/s"⟩, ⟨"/t"⟩, ⟨"/u"⟩]⟩ }
  disk :=
    { entries :=
        [(["p"], .directory), (["p", "d.icc"], .file (titled .display 1 "LAMP") 1),
          (["q"], .directory), (["q", "a.icc"], .file (titled .display 2 "Lamp") 1),
          (["r"], .directory), (["r", "b.icc"], .file (titled .display 2 "Lamp") 1),
          (["s"], .directory), (["s", "a.icc"], .file (titled .display 3 "Wall") 1),
          (["t"], .directory), (["t", "e.icc"], .file (titled .display 4 "Door") 1),
          (["u"], .directory), (["u", "c.icc"], .file (titled .input 5 "Door") 1)]
      working := []
      clock := 1 }

theorem files_closet :
    closet.files.1 = [⟨"/q/a.icc"⟩, ⟨"/r/b.icc"⟩, ⟨"/u/c.icc"⟩, ⟨"/p/d.icc"⟩, ⟨"/t/e.icc"⟩] := by
  rw [files_of_unknown rfl, Catalog.findFiles_eq_insertionSort]
  decide +kernel

/-- The pattern of the displays. -/
def displays : List Profile := [Profile.ofField .profileClass ProfileClass.display.signature]

/-- The files of the profiles of a listing. -/
def listedFiles (w : Workspace) (patterns : List Profile) (flags : LoadFlags) :
    List (Option Path) :=
  (w.profiles patterns flags).1.map (·.profile.fileName)

theorem isListing_profiles_closet :
    IsListing closet displays {} ((closet.profiles displays {}).1.map (·.profile)) ∧
      listedFiles closet displays {} =
        [some ⟨"/t/e.icc"⟩, some ⟨"/q/a.icc"⟩, some ⟨"/p/d.icc"⟩] ∧
      listedFiles closet displays { allowDuplicates := true } =
        [some ⟨"/t/e.icc"⟩, some ⟨"/q/a.icc"⟩, some ⟨"/r/b.icc"⟩, some ⟨"/p/d.icc"⟩] := by
  refine ⟨(isListing_profiles (.start rfl rfl) (by decide +kernel) displays {}).2, ?_, ?_⟩
  all_goals
    rw [listedFiles, fst_profiles, byDescription_eq_insertionSort, selected, opened, files_closet]
    decide +kernel

end Workspace

end IccProfile
