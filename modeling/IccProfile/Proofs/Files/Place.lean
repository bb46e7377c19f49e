import IccProfile.Proofs.Files.Disk

/-!
# The places of paths

`placeOf` is the place that the names of a path stand for, whether or not there is a way
to it. It depends on the components of the path only (`placeOf_eq_of_same`).

Empty segments and dots do not lead anywhere. They only ask for a directory where they
stand, which the next name asks for as well, so a path that ends in a name leads to a file
when one of the same components does (`isFile_of_same`). Every path that leads to a file
ends in a name (`usable_of_isFile`).
-/

set_option autoImplicit false

namespace IccProfile.Disk

variable {d e : Disk} {p q : Path} {place : Place} {content : Bytes} {time : Nat}

/-- The place that the names of a path stand for. -/
def placeOf (d : Disk) (p : Path) : Place :=
  follow (if p.isAbsolute then [] else d.working) p.names

theorem placeOf_eq_of_same (d : Disk) (h : p.same q = true) : d.placeOf p = d.placeOf q := by
  obtain ⟨habsolute, hnames⟩ := Path.names_eq_of_same h
  rw [placeOf, placeOf, habsolute, hnames]

theorem placeOf_eq_of_working (h : e.working = d.working) (p : Path) :
    e.placeOf p = d.placeOf p := by
  rw [placeOf, placeOf, h]

/-- A path that leads somewhere leads to the place of its names. -/
theorem placeOf_of_locate (h : d.locate p = .ok place) : d.placeOf p = place :=
  (locate_ok h).symm

/-- What is read stands at the place of the path. -/
theorem entry_placeOf_of_read (h : d.read p = .ok content) :
    ∃ time, d.entry? (d.placeOf p) = some (.file content time) ∧ d.time? p = some time := by
  obtain ⟨place, time, hplace, hfile⟩ := read_ok_iff.mp h
  refine ⟨time, ?_, time?_eq_some_iff.mpr ⟨place, content, hplace, hfile⟩⟩
  rw [placeOf_of_locate hplace, hfile]

/-- What can be read is a file. -/
theorem isFile_of_read (h : d.read p = .ok content) : d.isFile p = true := by
  obtain ⟨place, time, hplace, hfile⟩ := read_ok_iff.mp h
  exact isFile_iff.mpr ⟨place, content, time, hplace, hfile⟩

/-- The file of a path is read as what stands at its place. -/
theorem read_of_isFile (h : d.isFile p = true) :
    ∃ content time, d.read p = .ok content ∧ d.time? p = some time ∧
      d.entry? (d.placeOf p) = some (.file content time) := by
  obtain ⟨place, content, time, hplace, hfile⟩ := isFile_iff.mp h
  refine ⟨content, time, read_ok_iff.mpr ⟨place, time, hplace, hfile⟩,
    time?_eq_some_iff.mpr ⟨place, content, hplace, hfile⟩, ?_⟩
  rw [placeOf_of_locate hplace, hfile]

/-- A file is read alike at every path that leads to its place. -/
theorem read_of_placeOf_eq (hp : d.isFile p = true) (hplace : d.placeOf p = d.placeOf q)
    (hread : d.read q = .ok content) : d.read p = .ok content := by
  obtain ⟨held, time, hheld, -, hentry⟩ := read_of_isFile hp
  obtain ⟨when, hfile, -⟩ := entry_placeOf_of_read hread
  rw [hplace, hfile] at hentry
  cases hentry
  exact hheld

/-- So it is at paths of the same components. -/
theorem read_eq_of_same (h : p.same q = true) (hp : d.isFile p = true) (hq : d.isFile q = true) :
    d.read p = d.read q := by
  obtain ⟨content, time, hread, -, -⟩ := read_of_isFile hq
  rw [hread, read_of_placeOf_eq hp (placeOf_eq_of_same d h) hread]

/-! ## Names and what stands between them -/

/-- The place that a segment leads to from a directory, none for a name that is too long. -/
def reach (place : Place) (segment : String) : Option Place :=
  if Path.isName segment then
    if segment = ".." then some place.dropLast
    else if Path.maxNameSize < segment.utf8ByteSize then none
    else some (place ++ [segment])
  else some place

/-- Each step of a walk starts at a directory. -/
theorem walk_cons_ok_iff {segment : String} {rest : List String} {found : Place} :
    d.walk place (segment :: rest) = .ok found ↔
      d.entry? place = some .directory ∧
        ∃ next, reach place segment = some next ∧ d.walk next rest = .ok found := by
  have hskip : (segment = "" ∨ segment = ".") ↔ ¬ Path.isName segment = true := by
    rw [Path.isName_iff, Decidable.not_and_iff_or_not, Decidable.not_not, Decidable.not_not]
  rw [walk]
  cases hentry : d.entry? place with
  | none => simp
  | some entry =>
      cases entry with
      | file content time => simp
      | directory =>
          simp only [true_and, reach, hskip]
          by_cases hname : Path.isName segment = true
          · rw [if_neg (not_not_intro hname), if_pos hname]
            by_cases hup : segment = ".."
            · simp [hup]
            · rw [if_neg hup, if_neg hup]
              by_cases hlong : Path.maxNameSize < segment.utf8ByteSize
              · simp [hlong]
              · simp [hlong]
          · simp [hname]

/-- A walk that comes to its end does so along the names alone. -/
theorem walk_names {segments : List String} {found : Place}
    (h : d.walk place segments = .ok found) :
    d.walk place (segments.filter Path.isName) = .ok found := by
  induction segments generalizing place with
  | nil => exact h
  | cons segment rest ih =>
      obtain ⟨hdirectory, next, hnext, hrest⟩ := walk_cons_ok_iff.mp h
      by_cases hname : Path.isName segment = true
      · rw [List.filter_cons_of_pos hname]
        exact walk_cons_ok_iff.mpr ⟨hdirectory, next, hnext, ih hrest⟩
      · rw [reach, if_neg hname, Option.some.injEq] at hnext
        rw [List.filter_cons_of_neg hname, hnext]
        exact ih hrest

/-- Segments end in a name, if there are any. -/
def EndInName (segments : List String) : Prop :=
  ∀ segment, segments.getLast? = some segment → Path.isName segment = true

theorem EndInName.tail {segment : String} {rest : List String}
    (h : EndInName (segment :: rest)) : EndInName rest := by
  intro last hlast
  apply h
  rw [List.getLast?_cons, hlast, Option.getD_some]

/-- A walk along the names is one along all segments when these end in a name. -/
theorem walk_of_names {segments : List String} {found : Place} (hends : EndInName segments)
    (h : d.walk place (segments.filter Path.isName) = .ok found) :
    d.walk place segments = .ok found := by
  induction segments generalizing place with
  | nil => exact h
  | cons segment rest ih =>
      by_cases hname : Path.isName segment = true
      · rw [List.filter_cons_of_pos hname] at h
        obtain ⟨hdirectory, next, hnext, hrest⟩ := walk_cons_ok_iff.mp h
        exact walk_cons_ok_iff.mpr ⟨hdirectory, next, hnext, ih hends.tail hrest⟩
      · rw [List.filter_cons_of_neg hname] at h
        refine walk_cons_ok_iff.mpr ⟨?_, place, if_neg hname, ih hends.tail h⟩
        -- the next name asks for the directory
        cases hnames : rest.filter Path.isName with
        | cons first more =>
            rw [hnames] at h
            exact (walk_cons_ok_iff.mp h).1
        | nil =>
            cases hlast : rest.getLast? with
            | none =>
                rw [List.getLast?_eq_none_iff] at hlast
                subst hlast
                exact absurd (hends segment rfl) hname
            | some last =>
                have hmem : last ∈ rest.filter Path.isName :=
                  List.mem_filter.mpr ⟨List.mem_of_getLast? hlast, hends.tail last hlast⟩
                rw [hnames] at hmem
                exact absurd hmem List.not_mem_nil

/-- A walk that ends at a file has followed a name in the end. -/
theorem endInName_of_walk {segments : List String} {found : Place}
    (h : d.walk place segments = .ok found)
    (hfile : d.entry? found = some (.file content time)) : EndInName segments := by
  induction segments generalizing place with
  | nil =>
      intro segment hlast
      cases hlast
  | cons first rest ih =>
      obtain ⟨hdirectory, next, hnext, hrest⟩ := walk_cons_ok_iff.mp h
      intro segment hlast
      rw [List.getLast?_cons] at hlast
      cases hbehind : rest.getLast? with
      | some last =>
          rw [hbehind, Option.getD_some, Option.some.injEq] at hlast
          rw [← hlast]
          exact ih hrest last hbehind
      | none =>
          rw [hbehind, Option.getD_none, Option.some.injEq] at hlast
          rw [List.getLast?_eq_none_iff] at hbehind
          subst hbehind hlast
          -- a segment that is no name ends where it starts, at a directory
          refine Decidable.byContradiction fun hname => ?_
          rw [reach, if_neg hname, Option.some.injEq] at hnext
          obtain rfl := Except.ok.inj hrest
          rw [← hnext, hdirectory] at hfile
          cases hfile

/-- A path that can lead to a file: it can be looked up and ends in a name. -/
structure Usable (p : Path) : Prop where
  isUsable : p.isUsable = true
  ne_empty : p.text ≠ ""
  endsInName : EndInName p.segments

theorem locate_of_usable (h : Usable p) :
    d.locate p = d.walk (if p.isAbsolute then [] else d.working) p.segments := by
  rw [locate, locateAlong, h.isUsable, if_neg (by decide), if_neg h.ne_empty]

/-- Every path that leads to a file can. -/
theorem usable_of_isFile (h : d.isFile p = true) : Usable p := by
  obtain ⟨found, content, time, hfound, hfile⟩ := isFile_iff.mp h
  obtain ⟨husable, hempty, hwalk⟩ := locate_ok_iff.mp hfound
  exact ⟨husable, hempty, endInName_of_walk hwalk hfile⟩

/-- Such a path leads to a file when one of the same components does. -/
theorem isFile_of_same (hp : Usable p) (hsame : p.same q = true) (hq : d.isFile q = true) :
    d.isFile p = true := by
  obtain ⟨found, content, time, hfound, hfile⟩ := isFile_iff.mp hq
  obtain ⟨habsolute, hnames⟩ := Path.names_eq_of_same hsame
  rw [locate_of_usable (usable_of_isFile hq)] at hfound
  refine isFile_iff.mpr ⟨found, content, time, ?_, hfile⟩
  rw [locate_of_usable hp, habsolute]
  apply walk_of_names hp.endsInName
  rw [← Path.names, hnames]
  exact walk_names hfound

end IccProfile.Disk
