import IccProfile.Proofs.Files.Place

/-!
# Directory trees

The entries of a disk form a tree when their names are names, each of them stands in a directory,
and the working directory is there (`WellFormed`). On such a disk a listing gives paths of files
only: every path of it that can be looked up leads to a file (`isFile_of_mem_filesIn`). Every
directory is reached along the names of its place (`WellFormed.walk_root`).
-/

set_option autoImplicit false

namespace IccProfile

namespace Path

/-- A name that an entry of a directory can have. -/
structure IsEntryName (name : String) : Prop where
  isName : Path.isName name = true
  ne_up : name ≠ ".."
  slashFree : '/' ∉ name.toList
  le_maxNameSize : name.utf8ByteSize ≤ maxNameSize

instance (name : String) : Decidable (IsEntryName name) :=
  decidable_of_iff
    (isName name = true ∧ name ≠ ".." ∧ '/' ∉ name.toList ∧ name.utf8ByteSize ≤ maxNameSize)
    ⟨fun ⟨hname, hup, hslash, hsize⟩ => ⟨hname, hup, hslash, hsize⟩,
      fun h => ⟨h.isName, h.ne_up, h.slashFree, h.le_maxNameSize⟩⟩

variable {names : List String} {name : String} {base : Path}

theorem segments_ne_nil (p : Path) : p.segments ≠ [] :=
  fun h => Text.pieces_ne_nil '/' _ (List.map_eq_nil_iff.mp h)

/-- Names with slashes between them are the segments of the path. -/
theorem segments_intercalate (hne : names ≠ []) (h : ∀ n ∈ names, IsEntryName n) :
    segments ⟨String.intercalate "/" names⟩ = names := by
  induction names with
  | nil => exact absurd rfl hne
  | cons first rest ih =>
      obtain ⟨hfirst, hrest⟩ := List.forall_mem_cons.mp h
      have hone : segments ⟨first⟩ = [first] := by
        rw [segments, Text.pieces_of_not_mem hfirst.slashFree, List.map_singleton,
          String.ofList_toList]
      cases rest with
      | nil => rw [String.intercalate_singleton, hone]
      | cons second more =>
          have hpath : segments ⟨String.intercalate "/" (first :: second :: more)⟩ =
              segments ⟨first⟩ ++ segments ⟨String.intercalate "/" (second :: more)⟩ := by
            apply segments_of_append
            rw [String.intercalate_cons_cons, String.toList_append, String.toList_append,
              List.append_assoc]
            rfl
          rw [hpath, hone, ih (List.cons_ne_nil second more) hrest]
          rfl

theorem names_intercalate (h : ∀ n ∈ names, IsEntryName n) :
    Path.names ⟨String.intercalate "/" names⟩ = names := by
  by_cases hne : names = []
  · subst hne
    decide
  · rw [Path.names, segments_intercalate hne h, List.filter_eq_self]
    exact fun n hn => (h n hn).isName

theorem isAbsolute_intercalate (h : ∀ n ∈ names, IsEntryName n) :
    isAbsolute ⟨String.intercalate "/" names⟩ = false := by
  by_cases hne : names = []
  · subst hne
    rfl
  · rw [Bool.eq_false_iff]
    intro habsolute
    have hfirst := head?_segments_of_isAbsolute habsolute
    rw [segments_intercalate hne h] at hfirst
    exact (isName_iff.mp (h "" (List.mem_of_head? hfirst)).isName).1 rfl

/-- What stands before a relative path when it is seen from another one. -/
theorem exists_join_eq (base : Path) :
    ∃ start, ∀ p : Path, p.isAbsolute = false → base.join p = ⟨start ++ p.text⟩ := by
  by_cases hempty : base.text = ""
  · refine ⟨"", fun p hp => ?_⟩
    rw [join, hp, Bool.false_or, if_pos (decide_eq_true hempty), String.empty_append]
  · by_cases hslash : base.text.toList.getLast? = some '/'
    · refine ⟨base.text, fun p hp => ?_⟩
      rw [join, hp, Bool.false_or, if_neg (by simpa using hempty), if_pos hslash]
    · refine ⟨base.text ++ "/", fun p hp => ?_⟩
      rw [join, hp, Bool.false_or, if_neg (by simpa using hempty), if_neg hslash]

theorem isUsable_iff {p : Path} :
    p.isUsable = true ↔ p.text.utf8ByteSize ≤ maxSize ∧ '\x00' ∉ p.text.toList := by
  rw [isUsable, Bool.and_eq_true, decide_eq_true_eq, Bool.not_eq_true', List.contains_eq_mem,
    decide_eq_false_iff_not]

/-- A path can be looked up when it can be seen from another one. -/
theorem isUsable_of_join {p : Path} (h : (base.join p).isUsable = true) : p.isUsable = true := by
  cases hp : p.isAbsolute with
  | true => rwa [join, hp, Bool.true_or, if_pos rfl] at h
  | false =>
      obtain ⟨start, hstart⟩ := exists_join_eq base
      rw [hstart p hp, isUsable_iff, String.utf8ByteSize_append, String.toList_append,
        List.mem_append, not_or] at h
      obtain ⟨hsize, -, hnull⟩ := h
      exact isUsable_iff.mpr ⟨Nat.le_trans (Nat.le_add_left _ _) hsize, hnull⟩

/-- A name starts with another character than the slash. -/
theorem IsEntryName.exists_cons (h : IsEntryName name) :
    ∃ c cs, name.toList = c :: cs ∧ c ≠ '/' := by
  cases hchars : name.toList with
  | nil => exact absurd (String.toList_inj.mp (hchars.trans rfl)) (isName_iff.mp h.isName).1
  | cons c cs =>
      refine ⟨c, cs, rfl, ?_⟩
      rintro rfl
      exact h.slashFree (hchars ▸ List.mem_cons_self)

/-- So a path that starts with a name is relative. -/
theorem IsEntryName.isAbsolute_append (h : IsEntryName name) (text : String) :
    isAbsolute ⟨name ++ text⟩ = false := by
  obtain ⟨c, cs, hchars, hfirst⟩ := h.exists_cons
  rw [isAbsolute, String.toList_append, hchars]
  exact decide_eq_false fun heq => hfirst (Option.some.inj heq)

/-- A path below a name is seen from another path as from the name seen from there. -/
theorem join_join (hname : IsEntryName name) (base : Path) {p : Path} (hp : p.isAbsolute = false) :
    (base.join ⟨name⟩).join p = base.join ⟨name ++ "/" ++ p.text⟩ := by
  obtain ⟨start, hstart⟩ := exists_join_eq base
  obtain ⟨c, cs, hchars, -⟩ := hname.exists_cons
  have hrelative : isAbsolute ⟨name⟩ = false := by
    have happend := hname.isAbsolute_append ""
    rwa [String.append_empty] at happend
  have hbelow : isAbsolute ⟨name ++ "/" ++ p.text⟩ = false := by
    rw [String.append_assoc]
    exact hname.isAbsolute_append _
  have hlast : (start ++ name).toList.getLast? ≠ some '/' := by
    rw [String.toList_append, List.getLast?_append_of_ne_nil _ (hchars ▸ List.cons_ne_nil c cs)]
    exact fun h => hname.slashFree (List.mem_of_getLast? h)
  have hfilled : start ++ name ≠ "" := by
    intro hempty
    have hlist := congrArg String.toList hempty
    rw [String.toList_append, hchars] at hlist
    exact List.append_ne_nil_of_right_ne_nil _ (List.cons_ne_nil c cs) hlist
  rw [hstart _ hrelative, hstart _ hbelow, join, hp, Bool.false_or,
    if_neg (by simpa using hfilled), if_neg hlast, String.append_assoc, String.append_assoc,
    String.append_assoc]

end Path

namespace Disk

open IccProfile.Path (IsEntryName)

variable {d : Disk} {p dir : Path} {place found : Place} {names more : List String} {name : String}

/-! ## Walks -/

theorem walk_append_ok_iff :
    d.walk place (names ++ more) = .ok found ↔
      ∃ next, d.walk place names = .ok next ∧ d.walk next more = .ok found := by
  induction names generalizing place with
  | nil => simp [walk]
  | cons first rest ih =>
      rw [List.cons_append, walk_cons_ok_iff]
      constructor
      · rintro ⟨hdirectory, next, hnext, hrest⟩
        obtain ⟨middle, hmiddle, hmore⟩ := ih.mp hrest
        exact ⟨middle, walk_cons_ok_iff.mpr ⟨hdirectory, next, hnext, hmiddle⟩, hmore⟩
      · rintro ⟨middle, hmiddle, hmore⟩
        obtain ⟨hdirectory, next, hnext, hrest⟩ := walk_cons_ok_iff.mp hmiddle
        exact ⟨hdirectory, next, hnext, ih.mpr ⟨middle, hrest, hmore⟩⟩

/-- Segments that end in a name are not those of the empty path. -/
theorem EndInName.text_ne_empty (h : EndInName p.segments) : p.text ≠ "" := by
  intro hempty
  have hsegments : p.segments = [""] := by
    rw [Path.segments, hempty]
    rfl
  rw [hsegments] at h
  exact (Path.isName_iff.mp (h "" rfl)).1 rfl

/-- From a directory a name leads to the entry of this name. -/
theorem walk_name_ok_iff (hplace : d.entry? place = some .directory) (hname : IsEntryName name) :
    d.walk place (name :: more) = .ok found ↔ d.walk (place ++ [name]) more = .ok found := by
  rw [walk_cons_ok_iff, reach, if_pos hname.isName, if_neg hname.ne_up,
    if_neg (Nat.not_lt.mpr hname.le_maxNameSize)]
  simp [hplace]

/-! ## Paths of a listing -/

/-- A relative path leads on from the place that the names of another path lead to. -/
theorem locate_join (hfilled : dir.text ≠ "")
    (hplace : d.walk (if dir.isAbsolute then [] else d.working) dir.names = .ok place)
    (hp : p.isAbsolute = false) (hends : EndInName p.segments)
    (hwalk : d.walk place p.names = .ok found) (husable : (dir.join p).isUsable = true) :
    d.locate (dir.join p) = .ok found := by
  obtain ⟨before, hsegments, -⟩ := Path.segments_join hp dir
  have hjoined : EndInName (dir.join p).segments := by
    rw [hsegments]
    intro last hlast
    rw [List.getLast?_append_of_ne_nil _ p.segments_ne_nil] at hlast
    exact hends last hlast
  refine locate_ok_iff.mpr ⟨husable, hjoined.text_ne_empty, ?_⟩
  rw [Path.isAbsolute_join_of_relative hfilled hp]
  apply walk_of_names hjoined
  rw [← Path.names, Path.names_join_of_relative hp]
  exact walk_append_ok_iff.mpr ⟨place, hplace, hwalk⟩

/-- Names lead on from the place of a directory. -/
theorem locate_below (hdir : d.locate dir = .ok place) (hnames : ∀ n ∈ names, IsEntryName n)
    (hne : names ≠ []) (hwalk : d.walk place names = .ok found)
    (husable : (dir.join ⟨String.intercalate "/" names⟩).isUsable = true) :
    d.locate (dir.join ⟨String.intercalate "/" names⟩) = .ok found := by
  obtain ⟨-, hfilled, hplace⟩ := locate_ok_iff.mp hdir
  refine locate_join hfilled (walk_names hplace) (Path.isAbsolute_intercalate hnames) ?_ ?_ husable
  · rw [Path.segments_intercalate hne hnames]
    exact fun last hlast => (hnames last (List.mem_of_getLast? hlast)).isName
  · rwa [Path.names_intercalate hnames]

/-- What a listing shows is reached along its names. -/
theorem walk_of_lists (hdir : d.locate dir = .ok place) (hplace : d.entry? place = some .directory)
    (hnames : ∀ n ∈ names, IsEntryName n) (h : d.lists dir names = true) :
    d.walk place names = .ok (place ++ names) := by
  induction names generalizing dir place with
  | nil => cases h
  | cons first rest ih =>
      obtain ⟨hfirst, hrest⟩ := List.forall_mem_cons.mp hnames
      rw [walk_name_ok_iff hplace hfirst]
      cases rest with
      | nil => rfl
      | cons second more =>
          obtain ⟨hdirectory, hbelow⟩ := (Bool.and_eq_true _ _).mp h
          -- the directory on the way is the one that its path leads to
          obtain ⟨sub, hsub, hentry⟩ := find?_eq_some_iff.mp (of_decide_eq_true hdirectory)
          have hone : ∀ n ∈ [first], IsEntryName n := List.forall_mem_singleton.mpr hfirst
          have hstep : d.walk place [first] = .ok (place ++ [first]) :=
            (walk_name_ok_iff hplace hfirst).mpr rfl
          have hlocate := locate_below hdir hone (List.cons_ne_nil first []) hstep
          rw [String.intercalate_singleton] at hlocate
          have heq := Except.ok.inj (hsub.symm.trans (hlocate (locate_ok_iff.mp hsub).1))
          subst heq
          rw [ih hsub hentry hrest hbelow, List.append_assoc]
          rfl

/-- And it is no directory. -/
theorem isDirectory_of_lists (hnames : ∀ n ∈ names, IsEntryName n)
    (h : d.lists dir names = true) :
    d.isDirectory (dir.join ⟨String.intercalate "/" names⟩) = false := by
  induction names generalizing dir with
  | nil => cases h
  | cons first rest ih =>
      obtain ⟨hfirst, hrest⟩ := List.forall_mem_cons.mp hnames
      cases rest with
      | nil =>
          rw [String.intercalate_singleton]
          exact (Bool.not_eq_true' _).mp h
      | cons second more =>
          have hbelow := ih hrest ((Bool.and_eq_true _ _).mp h).2
          rw [Path.join_join hfirst dir (Path.isAbsolute_intercalate hrest)] at hbelow
          rwa [String.intercalate_cons_cons]

/-! ## Trees -/

/-- The entries of a disk form a tree. -/
structure WellFormed (d : Disk) : Prop where
  names : ∀ e ∈ d.entries, ∀ name ∈ e.1, IsEntryName name
  parents : ∀ e ∈ d.entries, d.entry? e.1.dropLast = some .directory
  working : d.entry? d.working = some .directory

/-- Something is at the place of each entry. -/
theorem entry_of_mem {e : Place × DiskEntry} (h : e ∈ d.entries) :
    ∃ entry, d.entry? e.1 = some entry := by
  unfold entry?
  split
  · exact ⟨.directory, rfl⟩
  · cases hlookup : d.entries.lookup e.1 with
    | none => exact absurd rfl (bne_iff_ne.mp (List.lookup_eq_none_iff.mp hlookup e h))
    | some entry => exact ⟨entry, rfl⟩

/-- A path of a listing leads to a file. -/
theorem isFile_of_mem_filesIn (hd : d.WellFormed) (h : p ∈ d.filesIn dir)
    (husable : p.isUsable = true) : d.isFile p = true := by
  obtain ⟨above, names, _, hdir, habove, hmem, hlists, rfl⟩ := of_mem_filesIn h
  have hnames : ∀ n ∈ names, IsEntryName n := fun n hn =>
    hd.names _ hmem n (List.mem_append_right above hn)
  have hne : names ≠ [] := by
    rintro rfl
    cases hlists
  have hlocate := locate_below hdir hnames hne (walk_of_lists hdir habove hnames hlists) husable
  -- something is there, and it is no directory
  obtain ⟨entry, hentry⟩ := entry_of_mem hmem
  cases entry with
  | directory =>
      have hother := isDirectory_of_lists hnames hlists
      rw [isDirectory, find?_eq_some_iff.mpr ⟨_, hlocate, hentry⟩] at hother
      cases hother
  | file content time => exact isFile_iff.mpr ⟨_, content, time, hlocate, hentry⟩

/-- On a tree every directory is reached from the root along the names of its place. -/
theorem WellFormed.walk_root (hd : d.WellFormed) (h : d.entry? place = some .directory) :
    d.walk [] place = .ok place ∧ ∀ n ∈ place, IsEntryName n := by
  induction place using List.reverseRecOn with
  | nil => exact ⟨rfl, nofun⟩
  | append_singleton before name ih =>
      have hfilled : before ++ [name] ≠ [] := List.concat_ne_nil name before
      rw [Disk.entry?, if_neg hfilled] at h
      obtain ⟨earlier, later, hentries, -⟩ := List.lookup_eq_some_iff.mp h
      have hmem : (before ++ [name], .directory) ∈ d.entries := by
        rw [hentries]
        exact List.mem_append_right earlier List.mem_cons_self
      have hnames := hd.names _ hmem
      have hparent := hd.parents _ hmem
      rw [List.dropLast_concat] at hparent
      refine ⟨walk_append_ok_iff.mpr ⟨before, (ih hparent).1, ?_⟩, hnames⟩
      exact (walk_name_ok_iff hparent (hnames name (List.mem_append_right before
        (List.mem_singleton_self name)))).mpr rfl

end Disk

end IccProfile
