import IccProfile.Proofs.Catalog.FileList
import IccProfile.Proofs.Catalog.Loaded

/-!
# Files of different names

A path leads to a place that ends in its file name (`getLast?_placeOf`), so paths of
different file names lead to different places. Opening a file writes at its own place and
keeps a profile under its own path, so nothing changes at the paths of other file names
(`SameAt`, `sameAt_openProfile`).

Files of pairwise different names are therefore opened one after the other as each of them
would be opened alone (`map_openAll`), and a search among them stops at the first that would
pass alone (`map_findFirst`).
-/

set_option autoImplicit false

namespace IccProfile

namespace Disk

theorem follow_append (place : Place) (names more : List String) :
    follow place (names ++ more) = follow (follow place names) more := by
  induction names generalizing place with
  | nil => rfl
  | cons name rest ih =>
      rw [List.cons_append, follow, follow]
      split
      · exact ih _
      · exact ih _

/-- The place of a path ends in its file name. -/
theorem getLast?_placeOf {d : Disk} {p : Path} {name : String} (h : p.fileName? = some name) :
    (d.placeOf p).getLast? = some name := by
  obtain ⟨hlast, hdots⟩ := Path.fileName?_eq_some_iff.mp h
  obtain ⟨before, hnames⟩ := List.getLast?_eq_some_iff.mp hlast
  rw [placeOf, hnames, follow_append, follow, if_neg hdots, follow, List.getLast?_concat]

/-- A file is read as before on a disk of the same shape that has the same at its place. -/
theorem read_congr {d e : Disk} {p : Path} (hshape : SameShape d e)
    (h : e.entry? (d.placeOf p) = d.entry? (d.placeOf p)) :
    e.read p = d.read p ∧ e.time? p = d.time? p := by
  unfold read time? find?
  rw [hshape.locate_eq]
  cases hplace : d.locate p with
  | error fault => exact ⟨rfl, rfl⟩
  | ok place =>
      rw [placeOf_of_locate hplace] at h
      simp only [bind, Except.bind, h, and_self]

end Disk

namespace Path

/-- Paths of the same components have the same file name. -/
theorem fileName?_eq_of_same {p q : Path} (h : p.same q = true) : p.fileName? = q.fileName? := by
  have hcomponents : p.components = q.components := of_decide_eq_true h
  rw [fileName?, fileName?, hcomponents]

theorem same_trans {p q r : Path} (hpq : p.same q = true) (hqr : q.same r = true) :
    p.same r = true :=
  decide_eq_true ((of_decide_eq_true hpq).trans (of_decide_eq_true hqr))

theorem same_symm {p q : Path} (h : p.same q = true) : q.same p = true :=
  decide_eq_true (of_decide_eq_true h).symm

end Path

namespace Workspace

variable {w v u : Workspace} {path name other : Path} {flags : LoadFlags}

/-- The profile that a name is answered with. -/
def answer? (w : Workspace) (flags : LoadFlags) (name : Path) : Option Profile :=
  (w.openProfile name flags).1.toOption.map (·.profile)

theorem answer?_eq_some_iff {p : Profile} :
    w.answer? flags name = some p ↔
      ∃ loaded v, w.openProfile name flags = (.ok loaded, v) ∧ loaded.profile = p := by
  unfold answer?
  cases w.openProfile name flags with
  | mk result after =>
      cases result with
      | error error => simp [Except.toOption]
      | ok loaded => simp [Except.toOption]

/-- Two workspaces have the same file and the same cached profile at a path. -/
structure SameAt (w v : Workspace) (path : Path) : Prop where
  cached?_eq : v.catalog.cached? path = w.catalog.cached? path
  time?_eq : v.disk.time? path = w.disk.time? path
  read_eq : v.disk.read path = w.disk.read path

namespace SameAt

theorem refl (w : Workspace) (path : Path) : SameAt w w path := ⟨rfl, rfl, rfl⟩

theorem trans (hwv : SameAt w v path) (hvu : SameAt v u path) : SameAt w u path :=
  ⟨hvu.cached?_eq.trans hwv.cached?_eq, hvu.time?_eq.trans hwv.time?_eq,
    hvu.read_eq.trans hwv.read_eq⟩

theorem hit?_eq (h : SameAt w v path) (flags : LoadFlags) :
    v.catalog.hit? v.disk path flags = w.catalog.hit? w.disk path flags := by
  simp only [Catalog.hit?, Catalog.isFresh, h.cached?_eq, h.time?_eq]

end SameAt

/-- What a name is answered with depends on its file and the cached profile of its path. -/
theorem answer?_congr (hname : v.resolve? name = w.resolve? name)
    (h : ∀ path, w.resolve? name = some path → SameAt w v path) :
    v.answer? flags name = w.answer? flags name := by
  unfold answer? openProfile
  rw [hname]
  split
  · rfl
  · cases hpath : w.resolve? name with
    | none => rfl
    | some path =>
        have hsame := h path hpath
        simp only [hsame.hit?_eq]
        cases w.catalog.hit? w.disk path flags with
        | some loaded =>
            simp only
            split <;> rfl
        | none =>
            have hload : (Profile.load v.disk path flags).1 = (Profile.load w.disk path flags).1 :=
              Profile.fst_load_congr hsame.read_eq
            simp only [load]
            cases hw : Profile.load w.disk path flags with
            | mk result disk =>
                cases hv : Profile.load v.disk path flags with
                | mk again after =>
                    rw [hw, hv] at hload
                    simp only at hload
                    subst hload
                    cases again <;> rfl

/-- The cached profile of a path is not affected by a load from a path of other components. -/
theorem cached?_catalogAfter (h : path.same other = false) (profile : Profile) (disk : Disk) :
    (w.catalogAfter path flags profile disk).cached? other = w.catalog.cached? other := by
  -- the entries that make room are not those of the other path
  have hkept : ∀ entry : CacheEntry,
      ((!entry.path.same path) = true ∧ entry.path.same other = true) ↔
        entry.path.same other = true := by
    intro entry
    refine ⟨And.right, fun hother => ⟨?_, hother⟩⟩
    rw [Bool.not_eq_true', Bool.eq_false_iff]
    intro hpath
    rw [Path.same_trans (Path.same_symm hpath) hother] at h
    cases h
  unfold catalogAfter
  simp only
  split
  · rfl
  · simp only [Catalog.cached?, Catalog.keep, entryOf, List.find?_append, List.find?_filter,
      List.find?_singleton, h, hkept, Bool.decide_eq_true, Bool.false_eq_true, if_false,
      Option.or_none]

/-- Opening a file changes nothing at the paths of other file names. -/
theorem sameAt_openProfile {m n : String} (hname : name.fileName? = some m)
    (hother : other.fileName? = some n) (hne : m ≠ n) (flags : LoadFlags) :
    SameAt w (w.openProfile name flags).2 other := by
  rcases w.openProfile_cases name flags with ⟨error, heq⟩ | ⟨path, hpath, hhit | hload⟩
  · rw [heq]
    exact .refl w other
  · obtain ⟨entry, -, -, -, heq⟩ := hhit
    rw [heq]
    exact .refl w other
  · obtain ⟨profile, disk, -, hprofile, heq⟩ := hload
    have hloads := Profile.loads_of_load hprofile
    have hfile := SearchPaths.fileName?_of_resolve? hpath hname
    have hsame : path.same other = false := by
      rw [Bool.eq_false_iff]
      intro hsame
      rw [Path.fileName?_eq_of_same hsame, hother, Option.some.injEq] at hfile
      exact hne hfile.symm
    have hplace : w.disk.placeOf other ≠ w.disk.placeOf path := by
      intro heq
      have hlast := Disk.getLast?_placeOf (d := w.disk) hother
      rw [heq, Disk.getLast?_placeOf hfile, Option.some.injEq] at hlast
      exact hne hlast
    obtain ⟨hread, htime⟩ := Disk.read_congr hloads.sameShape (hloads.entry_eq hplace)
    rw [heq]
    exact ⟨cached?_catalogAfter hsame profile disk, htime, hread⟩

/-! ## Several files -/

/-- Opening files changes nothing at the paths of other file names. -/
theorem sameAt_openAll {n : String} {paths : List Path}
    (hpaths : ∀ path ∈ paths, path.IsNamed ∧ path.fileName? ≠ some n)
    (hother : other.fileName? = some n) (flags : LoadFlags) :
    SameAt w (w.openAll flags paths).2 other := by
  induction paths generalizing w with
  | nil => exact .refl w other
  | cons first rest ih =>
      obtain ⟨⟨⟨m, hname⟩, hdiffers⟩, hrest⟩ := List.forall_mem_cons.mp hpaths
      have hne : m ≠ n := by
        rintro rfl
        exact hdiffers hname
      rw [openAll_cons]
      exact (sameAt_openProfile hname hother hne flags).trans (ih hrest)

/-- Once the first of them is open, the other files are answered as before. -/
theorem filterMap_answer?_openProfile {first : Path} {rest : List Path}
    (h : DifferentNames (first :: rest)) (flags : LoadFlags) :
    rest.filterMap ((w.openProfile first flags).2.answer? flags) =
      rest.filterMap (w.answer? flags) := by
  obtain ⟨⟨m, hname⟩, hnamed⟩ := List.forall_mem_cons.mp h.1
  have hdiffers := (List.pairwise_cons.mp h.2).1
  apply List.filterMap_congr
  intro next hnext
  obtain ⟨n, hn⟩ := hnamed next hnext
  have hne : m ≠ n := by
    rintro rfl
    exact hdiffers next hnext (hname.trans hn.symm)
  refine answer?_congr (w.resolve?_openProfile first flags next) ?_
  intro path hpath
  exact sameAt_openProfile hname (SearchPaths.fileName?_of_resolve? hpath hn) hne flags

/-- Files of different names are answered as each of them would be alone. -/
theorem map_openAll {paths : List Path} (h : DifferentNames paths) (flags : LoadFlags) :
    (w.openAll flags paths).1.map (·.profile) = paths.filterMap (w.answer? flags) := by
  induction paths generalizing w with
  | nil => rfl
  | cons first rest ih =>
      rw [List.filterMap_cons, ← filterMap_answer?_openProfile h flags, ← ih h.tail]
      simp only [openAll, answer?]
      cases (w.openProfile first flags).1 with
      | error error => rfl
      | ok loaded => rfl

/-- What is found among files of different names is the first answer that passes the test. -/
theorem map_findFirst {paths : List Path} (h : DifferentNames paths) (flags : LoadFlags)
    (test : Profile → Bool) :
    (w.findFirst flags test paths).1.map (·.profile) =
      (paths.filterMap (w.answer? flags)).find? test := by
  induction paths generalizing w with
  | nil => rfl
  | cons first rest ih =>
      rw [List.filterMap_cons, ← filterMap_answer?_openProfile h flags]
      simp only [findFirst, answer?]
      cases hopen : w.openProfile first flags with
      | mk result after =>
          cases result with
          | error error => exact ih h.tail
          | ok loaded =>
              simp only [Except.toOption, Option.map_some, List.find?_cons]
              cases test loaded.profile with
              | true => rfl
              | false => exact ih h.tail

end Workspace

end IccProfile
