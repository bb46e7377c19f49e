import IccProfile.Files.Disk
import IccProfile.Proofs.Files.Path
import IccProfile.Proofs.Keyed

/-!
# Reading and writing files

A path is looked up by walking along its segments, which leads to the place of its names
(`locate_ok`), so paths of the same components lead to one place. The walk asks at each
place whether there is a directory, so it ends alike on two disks with the same directories
and files, whatever the files hold: `SameShape` says so, and overwriting a file keeps it
(`sameShape_putFile`). What was written is read back (`write_of_file`), and all other
places stay as they were (`entry_putFile`). A file at a locked place is not overwritten
(`write_of_locked`). The paths of a listing are made of the names of
entries (`of_mem_filesIn`).
-/

set_option autoImplicit false

namespace IccProfile.Disk

variable {d e : Disk} {p : Path} {place : Place} {content : Bytes} {time : Nat}

/-! ## Entries -/

theorem putEntry_eq (place : Place) (entry : DiskEntry) (entries : List (Place × DiskEntry)) :
    putEntry place entry entries = putItem Prod.fst (place, entry) entries := by
  induction entries with
  | nil => rfl
  | cons first rest ih => rw [putEntry, putItem, ih]

theorem lookup_putEntry (place other : Place) (entry : DiskEntry)
    (entries : List (Place × DiskEntry)) :
    (putEntry place entry entries).lookup other =
      if other = place then some entry else entries.lookup other := by
  rw [putEntry_eq, lookup_putItem]
  simp only [@eq_comm _ place]

/-- Putting a file at a place changes nothing elsewhere. The root stays a directory. -/
theorem entry_putFile (hplace : place ≠ []) (d : Disk) (content : Bytes) (other : Place) :
    entry? (d.putFile place content) other =
      if other = place then some (.file content (d.clock + 1)) else d.entry? other := by
  unfold entry? putFile
  by_cases hroot : other = []
  · have hne : other ≠ place := fun heq => hplace (heq.symm.trans hroot)
    rw [if_pos hroot, if_neg hne, if_pos hroot]
  · rw [if_neg hroot, if_neg hroot, lookup_putEntry]

/-- There is no file at the root. -/
theorem ne_nil_of_file (h : d.entry? place = some (.file content time)) : place ≠ [] := by
  intro hroot
  unfold entry? at h
  rw [if_pos hroot] at h
  cases h

/-! ## Looking up -/

/-- The place that names lead to. -/
def follow : Place → List String → Place
  | place, [] => place
  | place, name :: rest =>
    if name = ".." then follow place.dropLast rest else follow (place ++ [name]) rest

/-- A walk that comes to its end has followed the names on its way. -/
theorem walk_ok {segments : List String} {found : Place} (h : d.walk place segments = .ok found) :
    found = follow place (segments.filter Path.isName) := by
  induction segments generalizing place with
  | nil => exact (Except.ok.inj h).symm
  | cons segment rest ih =>
      rw [walk] at h
      split at h
      · cases h
      · cases h
      · by_cases hskip : segment = "" ∨ segment = "."
        -- it stays where it is for a segment that is no name
        · have hname : Path.isName segment = false := by
            rw [Bool.eq_false_iff, ne_eq, Path.isName_iff]
            rintro ⟨hempty, hdot⟩
            rcases hskip with hskip | hskip
            · exact hempty hskip
            · exact hdot hskip
          rw [if_pos hskip] at h
          rw [List.filter_cons, hname]
          exact ih h
        · have hname : Path.isName segment = true :=
            Path.isName_iff.mpr (not_or.mp hskip)
          rw [if_neg hskip] at h
          rw [List.filter_cons, hname, if_pos rfl, follow]
          by_cases hup : segment = ".."
          · rw [if_pos hup] at h ⊢
            exact ih h
          · rw [if_neg hup] at h ⊢
            split at h
            · cases h
            · exact ih h

/-- A path leads to the end of a walk along its segments, when it can be looked up at all. -/
theorem locate_ok_iff {found : Place} :
    d.locate p = .ok found ↔
      p.isUsable = true ∧ p.text ≠ "" ∧
        d.walk (if p.isAbsolute then [] else d.working) p.segments = .ok found := by
  unfold locate locateAlong
  by_cases husable : p.isUsable = true
  · by_cases hempty : p.text = ""
    · simp [husable, hempty]
    · simp [husable, hempty]
  · simp [husable]

/-- A path that leads somewhere leads to the place of its names. -/
theorem locate_ok {found : Place} (h : d.locate p = .ok found) :
    found = follow (if p.isAbsolute then [] else d.working) p.names :=
  walk_ok (locate_ok_iff.mp h).2.2

/-- Paths of the same components lead to one place, also on disks with other files. -/
theorem locate_eq_of_same {q : Path} {found other : Place} (hworking : d.working = e.working)
    (hsame : p.same q = true) (hp : d.locate p = .ok found) (hq : e.locate q = .ok other) :
    found = other := by
  obtain ⟨habsolute, hnames⟩ := Path.names_eq_of_same hsame
  rw [locate_ok hp, locate_ok hq, hworking, habsolute, hnames]

/-- Whether an entry is a directory. -/
def isDirectoryEntry : DiskEntry → Bool
  | .directory => true
  | .file .. => false

/-- Whether a place holds a directory, when it holds anything. -/
def shapeAt (d : Disk) (place : Place) : Option Bool :=
  Option.map isDirectoryEntry <| d.entry? place

/-- Two disks have their directories and their files at the same places. -/
structure SameShape (d e : Disk) : Prop where
  working_eq : e.working = d.working
  shape_eq : ∀ place, e.shapeAt place = d.shapeAt place

theorem sameShape_refl (d : Disk) : SameShape d d := ⟨rfl, fun _ => rfl⟩

namespace SameShape

theorem trans {f : Disk} (hde : SameShape d e) (hef : SameShape e f) : SameShape d f :=
  ⟨hef.working_eq.trans hde.working_eq,
    fun place => (hef.shape_eq place).trans (hde.shape_eq place)⟩

/-- Both disks have nothing at a place, or a directory, or a file. -/
theorem entry_cases (h : SameShape d e) (place : Place) :
    d.entry? place = none ∧ e.entry? place = none ∨
      d.entry? place = some .directory ∧ e.entry? place = some .directory ∨
      ∃ old first new second,
        d.entry? place = some (.file old first) ∧ e.entry? place = some (.file new second) := by
  have hshape := h.shape_eq place
  rw [shapeAt, shapeAt] at hshape
  cases hd : d.entry? place with
  | none =>
      rw [hd, Option.map_none, Option.map_eq_none_iff] at hshape
      exact .inl ⟨rfl, hshape⟩
  | some entry =>
      rw [hd, Option.map_some] at hshape
      obtain ⟨other, he, hkind⟩ := Option.map_eq_some_iff.mp hshape
      cases entry with
      | directory =>
          cases other with
          | directory => exact .inr (.inl ⟨rfl, he⟩)
          | file content time => cases hkind
      | file content time =>
          cases other with
          | directory => cases hkind
          | file new second => exact .inr (.inr ⟨content, time, new, second, rfl, he⟩)

theorem walk_eq (h : SameShape d e) (place : Place) (segments : List String) :
    e.walk place segments = d.walk place segments := by
  induction segments generalizing place with
  | nil => rfl
  | cons segment rest ih =>
      -- both walks go on from a directory, and stop alike elsewhere
      rcases h.entry_cases place with ⟨hd, he⟩ | ⟨hd, he⟩ | ⟨old, first, new, second, hd, he⟩
      · simp only [walk, hd, he]
      · simp only [walk, hd, he, ih]
      · simp only [walk, hd, he]

theorem locate_eq (h : SameShape d e) (p : Path) : e.locate p = d.locate p := by
  simp only [locate, locateAlong, h.working_eq, h.walk_eq]

theorem isFile_eq (h : SameShape d e) (p : Path) : e.isFile p = d.isFile p := by
  unfold isFile find?
  rw [h.locate_eq]
  cases d.locate p with
  | error fault => rfl
  | ok place =>
      rcases h.entry_cases place with ⟨hd, he⟩ | ⟨hd, he⟩ | ⟨old, first, new, second, hd, he⟩
      · simp only [hd, he]
      · simp only [hd, he]
      · simp only [hd, he]

end SameShape

/-- A file that is overwritten leaves the shape of the disk. -/
theorem sameShape_putFile (h : d.entry? place = some (.file content time)) (new : Bytes) :
    SameShape d (d.putFile place new) where
  working_eq := rfl
  shape_eq := by
    intro other
    rw [shapeAt, shapeAt, entry_putFile (ne_nil_of_file h)]
    split
    · next heq =>
        rw [heq, h]
        rfl
    · rfl

/-! ## Files -/

/-- Reading succeeds where a path leads to a file. -/
theorem read_ok_iff :
    d.read p = .ok content ↔
      ∃ place time, d.locate p = .ok place ∧ d.entry? place = some (.file content time) := by
  unfold read
  cases d.locate p with
  | error fault =>
      constructor
      · intro h
        cases h
      · rintro ⟨place, time, hplace, -⟩
        cases hplace
  | ok place =>
      simp only [bind, Except.bind, Except.ok.injEq, exists_eq_left', exists_and_left]
      cases d.entry? place with
      | none =>
          constructor
          · intro h
            cases h
          · rintro ⟨time, hentry⟩
            cases hentry
      | some entry =>
          cases entry with
          | directory =>
              constructor
              · intro h
                cases h
              · rintro ⟨time, hentry⟩
                cases hentry
          | file held time =>
              constructor
              · intro h
                obtain rfl := Except.ok.inj h
                exact ⟨time, rfl⟩
              · rintro ⟨time, hentry⟩
                cases hentry
                rfl

/-- A path leads to what is at the place where it ends. -/
theorem find?_eq_some_iff {entry : DiskEntry} :
    d.find? p = some entry ↔ ∃ place, d.locate p = .ok place ∧ d.entry? place = some entry := by
  unfold find?
  cases d.locate p with
  | error fault =>
      constructor
      · intro h
        cases h
      · rintro ⟨place, hplace, -⟩
        cases hplace
  | ok place => simp only [Except.ok.injEq, exists_eq_left']

theorem isFile_iff :
    d.isFile p = true ↔
      ∃ place content time,
        d.locate p = .ok place ∧ d.entry? place = some (.file content time) := by
  unfold isFile
  constructor
  · intro h
    split at h
    · next content time hfound =>
        obtain ⟨place, hplace, hfile⟩ := find?_eq_some_iff.mp hfound
        exact ⟨place, content, time, hplace, hfile⟩
    · cases h
  · rintro ⟨place, content, time, hplace, hfile⟩
    rw [find?_eq_some_iff.mpr ⟨place, hplace, hfile⟩]

/-- The time of a file is that of the entry its path leads to. -/
theorem time?_eq_some_iff :
    d.time? p = some time ↔
      ∃ place content, d.locate p = .ok place ∧ d.entry? place = some (.file content time) := by
  unfold time?
  constructor
  · intro h
    split at h
    · next content held hfound =>
        obtain ⟨place, hplace, hfile⟩ := find?_eq_some_iff.mp hfound
        obtain rfl := Option.some.inj h
        exact ⟨place, content, hplace, hfile⟩
    · cases h
  · rintro ⟨place, content, hplace, hfile⟩
    rw [find?_eq_some_iff.mpr ⟨place, hplace, hfile⟩]

/-! ## Writing -/

/-- No file is written at the place of a directory. -/
theorem not_directory_of_canWrite (h : d.canWrite place = true) :
    d.entry? place ≠ some .directory := by
  intro hdirectory
  simp only [canWrite, hdirectory, Bool.false_eq_true] at h

/-- A file is overwritten unless its place is locked. -/
theorem canWrite_of_file (hfile : d.entry? place = some (.file content time)) :
    d.canWrite place = true ↔ place ∉ d.locked := by
  simp only [canWrite, hfile, decide_eq_true_eq]

/-- Writing puts a file where it can be written. -/
theorem write_ok_iff :
    d.write p content = .ok e ↔
      ∃ place, d.locate p = .ok place ∧ d.canWrite place = true ∧
        e = d.putFile place content := by
  unfold write
  cases d.locate p with
  | error fault =>
      constructor
      · intro h
        cases h
      · rintro ⟨place, hplace, -⟩
        cases hplace
  | ok place =>
      simp only [bind, Except.bind, Except.ok.injEq, exists_eq_left']
      by_cases hwrite : d.canWrite place = true
      · rw [if_pos hwrite]
        constructor
        · intro h
          exact ⟨hwrite, (Except.ok.inj h).symm⟩
        · rintro ⟨-, rfl⟩
          rfl
      · rw [if_neg hwrite]
        constructor
        · intro h
          cases h
        · rintro ⟨hcan, -⟩
          exact absurd hcan hwrite

/-- A locked file is not overwritten. -/
theorem write_of_locked (hplace : d.locate p = .ok place)
    (hfile : d.entry? place = some (.file content time)) (hlocked : place ∈ d.locked)
    (new : Bytes) : d.write p new = .error .refused := by
  have hwrite : ¬ d.canWrite place = true := fun hcan => (canWrite_of_file hfile).mp hcan hlocked
  simp only [write, hplace, bind, Except.bind, if_neg hwrite]

/-- Another file is read as what was written, and the shape of the disk stays. -/
theorem write_of_file (hplace : d.locate p = .ok place)
    (hfile : d.entry? place = some (.file content time)) (hfree : place ∉ d.locked) (new : Bytes) :
    d.write p new = .ok (d.putFile place new) ∧ (d.putFile place new).read p = .ok new ∧
      (d.putFile place new).time? p = some (d.clock + 1) := by
  have hshape := sameShape_putFile hfile new
  have hlocate : (d.putFile place new).locate p = .ok place := (hshape.locate_eq p).trans hplace
  have hentry : entry? (d.putFile place new) place = some (.file new (d.clock + 1)) := by
    rw [entry_putFile (ne_nil_of_file hfile), if_pos rfl]
  refine ⟨?_, ?_, ?_⟩
  · exact write_ok_iff.mpr ⟨place, hplace, (canWrite_of_file hfile).mpr hfree, rfl⟩
  · exact read_ok_iff.mpr ⟨place, _, hlocate, hentry⟩
  · exact time?_eq_some_iff.mpr ⟨place, new, hlocate, hentry⟩

/-! ## Listings -/

/-- A path of a listing is made of the names that lead from the directory to an entry. -/
theorem of_mem_filesIn {dir : Path} (h : p ∈ d.filesIn dir) :
    ∃ above names entry, d.locate dir = .ok above ∧ d.entry? above = some .directory ∧
      (above ++ names, entry) ∈ d.entries ∧ d.lists dir names = true ∧
      p = dir.join ⟨String.intercalate "/" names⟩ := by
  unfold filesIn at h
  split at h
  · exact absurd h List.not_mem_nil
  · next above habove =>
      split at h
      · next hdirectory =>
          obtain ⟨names, hbelow, rfl⟩ := List.mem_map.mp h
          obtain ⟨⟨whole, entry⟩, hentry, hkept⟩ :=
            List.mem_filterMap.mp ((List.mergeSort_perm _ _).mem_iff.mp hbelow)
          obtain ⟨hlisted, hnames⟩ := Option.ite_none_right_eq_some.mp hkept
          obtain ⟨hstarts, hlists⟩ := (Bool.and_eq_true _ _).mp hlisted
          obtain ⟨rest, rfl⟩ := List.isPrefixOf_iff_prefix.mp hstarts
          obtain rfl : rest = names := by
            rw [← Option.some.inj hnames, List.drop_left]
          rw [List.drop_left] at hlists
          exact ⟨above, rest, entry, habove, of_decide_eq_true hdirectory, hentry, hlists, rfl⟩
      · exact absurd h List.not_mem_nil

end IccProfile.Disk
