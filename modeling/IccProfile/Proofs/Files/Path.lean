import IccProfile.Files.Path

/-!
# The names of a path

The components of a path are what it starts with and its names (`components_eq`). No name
is a slash or a dot, so paths of the same components have the same names and start alike
(`names_eq_of_same`), and the file name is the last name unless that is two dots
(`fileName?_eq_some_iff`). Seen from another path, a path keeps its segments at the end
(`segments_join`), so its names (`names_join`), and so its file name (`fileName?_join`).
-/

set_option autoImplicit false

namespace IccProfile

namespace Text

/-- A separator between two texts parts their pieces. -/
theorem pieces_append (sep : Char) (a b : List Char) :
    pieces sep (a ++ sep :: b) = pieces sep a ++ pieces sep b := by
  induction a with
  | nil => simp only [List.nil_append, pieces, if_true, List.cons_append]
  | cons c rest ih =>
      rw [List.cons_append, pieces, pieces]
      by_cases hsep : c = sep
      · rw [if_pos hsep, if_pos hsep, ih, List.cons_append]
      · rw [if_neg hsep, if_neg hsep, ih]
        cases hpieces : pieces sep rest with
        | nil => exact absurd hpieces (pieces_ne_nil sep rest)
        | cons piece more => rfl

/-- No piece holds the separator. -/
theorem not_mem_of_mem_pieces {sep : Char} {cs piece : List Char} (h : piece ∈ pieces sep cs) :
    sep ∉ piece := by
  induction cs generalizing piece with
  | nil =>
      obtain rfl := List.mem_singleton.mp h
      exact List.not_mem_nil
  | cons c rest ih =>
      rw [pieces] at h
      by_cases hsep : c = sep
      · rw [if_pos hsep] at h
        rcases List.mem_cons.mp h with rfl | hrest
        · exact List.not_mem_nil
        · exact ih hrest
      · rw [if_neg hsep] at h
        cases hpieces : pieces sep rest with
        | nil => exact absurd hpieces (pieces_ne_nil sep rest)
        | cons first more =>
            rw [hpieces] at h ih
            rcases List.mem_cons.mp h with rfl | hmore
            · rw [List.mem_cons, not_or]
              exact ⟨fun heq => hsep heq.symm, ih List.mem_cons_self⟩
            · exact ih (List.mem_cons_of_mem first hmore)

/-- A text without the separator is one piece. -/
theorem pieces_of_not_mem {sep : Char} {cs : List Char} (h : sep ∉ cs) : pieces sep cs = [cs] := by
  induction cs with
  | nil => rfl
  | cons c rest ih =>
      obtain ⟨hne, hrest⟩ := not_or.mp (mt List.mem_cons.mpr h)
      rw [pieces, if_neg fun heq => hne heq.symm, ih hrest]

end Text

namespace Path

/-- The names of a path, two dots among them. -/
def names (p : Path) : List String := p.segments.filter isName

/-- What stands before the names among the components. -/
def start (p : Path) : List String :=
  if p.isAbsolute then ["/"] else if p.segments.head? = some "." then ["."] else []

variable {p q base name : Path}

theorem isName_iff {segment : String} : isName segment = true ↔ segment ≠ "" ∧ segment ≠ "." := by
  rw [isName, Bool.and_eq_true, decide_eq_true_eq, decide_eq_true_eq]

/-- No name is a dot or a slash. -/
theorem ne_of_mem_names {n : String} (h : n ∈ p.names) : n ≠ "." ∧ n ≠ "/" := by
  obtain ⟨hsegment, hname⟩ := List.mem_filter.mp h
  refine ⟨(isName_iff.mp hname).2, ?_⟩
  rintro rfl
  obtain ⟨piece, hpiece, htext⟩ := List.mem_map.mp hsegment
  apply Text.not_mem_of_mem_pieces hpiece
  have hchars : piece = "/".toList := by rw [← htext, String.toList_ofList]
  rw [hchars]
  decide

/-- The first segment is empty when a path starts at the root. -/
theorem head?_segments_of_isAbsolute (h : p.isAbsolute = true) : p.segments.head? = some "" := by
  have hfirst : p.text.toList.head? = some '/' := of_decide_eq_true h
  obtain ⟨rest, hchars⟩ := List.head?_eq_some_iff.mp hfirst
  rw [segments, hchars, Text.pieces, if_pos rfl]
  rfl

/-- Else it is empty only in the empty path. -/
theorem segments_of_not_isAbsolute (h : p.isAbsolute = false)
    (hfirst : p.segments.head? = some "") : p.segments = [""] := by
  cases hchars : p.text.toList with
  | nil =>
      rw [segments, hchars]
      rfl
  | cons c rest =>
      have hslash : c ≠ '/' := by
        rintro rfl
        rw [isAbsolute, hchars] at h
        cases h
      rw [segments, hchars, Text.pieces, if_neg hslash] at hfirst
      cases hpieces : Text.pieces '/' rest with
      | nil => exact absurd hpieces (Text.pieces_ne_nil '/' rest)
      | cons piece more =>
          rw [hpieces] at hfirst
          have hempty : String.ofList (c :: piece) = "" := Option.some.inj hfirst
          have hlist := congrArg String.toList hempty
          rw [String.toList_ofList] at hlist
          cases hlist

/-- The components are what a path starts with and its names. -/
theorem components_eq (p : Path) : p.components = p.start ++ p.names := by
  unfold components
  split
  · next rest hsegments =>
      have hfirst : p.segments.head? = some "" := by rw [hsegments, List.head?_cons]
      have hnames : p.names = rest.filter isName := by
        rw [names, hsegments]
        rfl
      cases habsolute : p.isAbsolute with
      | true =>
          rw [if_pos rfl, start, habsolute, if_pos rfl, hnames]
          rfl
      -- the empty path has no components
      | false =>
          have hempty := segments_of_not_isAbsolute habsolute hfirst
          rw [hsegments] at hempty
          rw [start, habsolute, hnames, (List.cons.inj hempty).2, hfirst]
          rfl
  · next rest hsegments =>
      have hfirst : p.segments.head? = some "." := by rw [hsegments, List.head?_cons]
      have habsolute : p.isAbsolute = false := by
        rw [Bool.eq_false_iff]
        intro habsolute
        have hroot := head?_segments_of_isAbsolute habsolute
        rw [hfirst] at hroot
        exact absurd (Option.some.inj hroot) (by decide)
      rw [start, habsolute, hfirst, names, hsegments]
      rfl
  · next hempty hdot =>
      have habsolute : p.isAbsolute = false := by
        rw [Bool.eq_false_iff]
        intro habsolute
        obtain ⟨rest, hsegments⟩ :=
          List.head?_eq_some_iff.mp (head?_segments_of_isAbsolute habsolute)
        exact hempty rest hsegments
      have hfirst : p.segments.head? ≠ some "." := by
        intro hfirst
        obtain ⟨rest, hsegments⟩ := List.head?_eq_some_iff.mp hfirst
        exact hdot rest hsegments
      rw [start, habsolute, if_neg hfirst]
      rfl

/-- A path starts at the root, with a dot, or with a name. -/
theorem start_cases (p : Path) :
    (p.isAbsolute = true ∧ p.start = ["/"]) ∨
      (p.isAbsolute = false ∧ (p.start = ["."] ∨ p.start = [])) := by
  unfold start
  cases p.isAbsolute with
  | true => exact .inl ⟨rfl, rfl⟩
  | false =>
      refine .inr ⟨rfl, ?_⟩
      by_cases hdot : p.segments.head? = some "."
      · exact .inl (if_pos hdot)
      · exact .inr (if_neg hdot)

/-- Paths of the same components start alike and have the same names. -/
theorem names_eq_of_same (h : p.same q = true) :
    p.isAbsolute = q.isAbsolute ∧ p.names = q.names := by
  have hcomponents : p.start ++ p.names = q.start ++ q.names := by
    rw [← components_eq, ← components_eq]
    exact of_decide_eq_true h
  -- a list of names does not start with a slash or a dot
  have hclash : ∀ (first : String) (rest : List String) (r : Path),
      first = "/" ∨ first = "." → first :: rest ≠ r.names := by
    intro first rest r hfirst heq
    have hmem : first ∈ r.names := by
      rw [← heq]
      exact List.mem_cons_self
    obtain ⟨hdot, hslash⟩ := ne_of_mem_names hmem
    rcases hfirst with hfirst | hfirst
    · exact hslash hfirst
    · exact hdot hfirst
  rcases start_cases p with ⟨hp, hstart⟩ | ⟨hp, hstart | hstart⟩ <;>
    rcases start_cases q with ⟨hq, hstart'⟩ | ⟨hq, hstart' | hstart'⟩ <;>
    rw [hstart, hstart'] at hcomponents <;> rw [hp, hq]
  · exact ⟨rfl, (List.cons.inj hcomponents).2⟩
  · exact absurd (List.cons.inj hcomponents).1 (by decide)
  · exact absurd hcomponents (hclash _ _ q (.inl rfl))
  · exact absurd (List.cons.inj hcomponents).1 (by decide)
  · exact ⟨rfl, (List.cons.inj hcomponents).2⟩
  · exact absurd hcomponents (hclash _ _ q (.inr rfl))
  · exact absurd hcomponents.symm (hclash _ _ p (.inl rfl))
  · exact absurd hcomponents.symm (hclash _ _ p (.inr rfl))
  · exact ⟨rfl, hcomponents⟩

/-- The file name is the last name, unless that is two dots. -/
theorem fileName?_eq_some_iff {n : String} :
    p.fileName? = some n ↔ p.names.getLast? = some n ∧ n ≠ ".." := by
  rw [fileName?, components_eq, List.getLast?_append, Option.filter_eq_some_iff]
  cases hlast : p.names.getLast? with
  | none =>
      -- what a path starts with is no file name
      rw [Option.none_or]
      constructor
      · rintro ⟨hstart, hname⟩
        have hmem := List.mem_of_getLast? hstart
        rcases start_cases p with ⟨-, heq⟩ | ⟨-, heq | heq⟩
        · rw [heq, List.mem_singleton] at hmem
          rw [hmem] at hname
          exact absurd hname (by decide)
        · rw [heq, List.mem_singleton] at hmem
          rw [hmem] at hname
          exact absurd hname (by decide)
        · rw [heq] at hmem
          exact absurd hmem List.not_mem_nil
      · rintro ⟨hnone, -⟩
        cases hnone
  | some last =>
      rw [Option.some_or]
      have hne := ne_of_mem_names (List.mem_of_getLast? hlast)
      constructor
      · rintro ⟨heq, hname⟩
        rw [Bool.and_eq_true, Bool.and_eq_true, decide_eq_true_eq, decide_eq_true_eq,
          decide_eq_true_eq] at hname
        exact ⟨heq, hname.2⟩
      · rintro ⟨heq, hdots⟩
        obtain rfl := Option.some.inj heq
        rw [Bool.and_eq_true, Bool.and_eq_true, decide_eq_true_eq, decide_eq_true_eq,
          decide_eq_true_eq]
        exact ⟨rfl, ⟨hne.2, hne.1⟩, hdots⟩

/-- A file name is not empty. -/
theorem ne_empty_of_fileName? {n : String} (h : p.fileName? = some n) : n ≠ "" := by
  have hmem := List.mem_of_getLast? (fileName?_eq_some_iff.mp h).1
  exact (isName_iff.mp (List.mem_filter.mp hmem).2).1

/-- It does not start at the root. -/
theorem isAbsolute_of_fileName? {n : String} (h : p.fileName? = some n) :
    isAbsolute ⟨n⟩ = false := by
  have hmem := List.mem_of_getLast? (fileName?_eq_some_iff.mp h).1
  obtain ⟨piece, hpiece, rfl⟩ := List.mem_map.mp (List.mem_filter.mp hmem).1
  rw [isAbsolute, decide_eq_false_iff_not, String.toList_ofList]
  intro hfirst
  exact Text.not_mem_of_mem_pieces hpiece (List.mem_of_head? hfirst)

/-- A path with a slash in it has the segments before the slash and those behind it. -/
theorem segments_of_append (h : p.text.toList = base.text.toList ++ '/' :: name.text.toList) :
    p.segments = base.segments ++ name.segments := by
  rw [segments, segments, segments, h, Text.pieces_append, List.map_append]

/-- Seen from another path, a relative path starts at the root when the other path does. -/
theorem isAbsolute_join_of_relative (hbase : base.text ≠ "") (hname : name.isAbsolute = false) :
    (base.join name).isAbsolute = base.isAbsolute := by
  have hextended (text : String) : isAbsolute ⟨base.text ++ text⟩ = base.isAbsolute := by
    rw [isAbsolute, isAbsolute, String.toList_append, List.head?_append]
    cases hchars : base.text.toList with
    | nil => exact absurd (String.toList_inj.mp (hchars.trans rfl)) hbase
    | cons c rest => rfl
  unfold join
  rw [hname, Bool.false_or, if_neg (by simpa using hbase)]
  split
  · exact hextended _
  · rw [String.append_assoc]
    exact hextended _

theorem text_ne_empty_of_isAbsolute (h : p.isAbsolute = true) : p.text ≠ "" := by
  intro hempty
  rw [isAbsolute, hempty] at h
  exact absurd h (by decide)

/-- From an absolute path all paths are seen as absolute ones. -/
theorem isAbsolute_join (h : base.isAbsolute = true) (name : Path) :
    (base.join name).isAbsolute = true := by
  cases hname : name.isAbsolute with
  | true => rwa [join, hname, Bool.true_or, if_pos rfl]
  | false => rw [isAbsolute_join_of_relative (text_ne_empty_of_isAbsolute h) hname, h]

/-- Seen from another path, a relative path keeps its segments at the end, behind the names of the
other path. -/
theorem segments_join (h : name.isAbsolute = false) (base : Path) :
    ∃ before, (base.join name).segments = before ++ name.segments ∧
      before.filter isName = base.names := by
  unfold join
  rw [h, Bool.false_or]
  split
  · next hempty =>
      refine ⟨[], rfl, ?_⟩
      rw [names, segments, of_decide_eq_true hempty]
      rfl
  · split
    -- the slash at the end of the base is followed by an empty segment, which is no name
    · next hslash =>
        obtain ⟨chars, hchars⟩ := List.getLast?_eq_some_iff.mp hslash
        let before : Path := ⟨String.ofList chars⟩
        have hbefore : before.text.toList = chars := String.toList_ofList
        have hbase : base.segments = before.segments ++ segments ⟨""⟩ := by
          apply segments_of_append
          rw [hchars, hbefore]
          rfl
        have hempty : (segments ⟨""⟩).filter isName = [] := by decide
        refine ⟨before.segments, ?_, ?_⟩
        · apply segments_of_append
          rw [String.toList_append, hchars, hbefore, List.append_assoc]
          rfl
        · rw [names, hbase, List.filter_append, hempty, List.append_nil]
    · refine ⟨base.segments, ?_, rfl⟩
      apply segments_of_append
      rw [String.toList_append, String.toList_append, List.append_assoc]
      rfl

/-- So it keeps its names. -/
theorem names_join_of_relative (h : name.isAbsolute = false) (base : Path) :
    (base.join name).names = base.names ++ name.names := by
  obtain ⟨before, hsegments, hnames⟩ := segments_join h base
  rw [names, hsegments, List.filter_append, hnames]
  rfl

/-- Seen from another path, a path keeps its names at the end. -/
theorem names_join (base name : Path) :
    (base.join name).names = name.names ∨
      (base.join name).names = base.names ++ name.names := by
  cases habsolute : name.isAbsolute with
  | true => exact .inl (by rw [join, habsolute, Bool.true_or, if_pos rfl])
  | false => exact .inr (names_join_of_relative habsolute base)

/-- A path keeps its file name when it is seen from another one. -/
theorem fileName?_join {n : String} (h : name.fileName? = some n) (base : Path) :
    (base.join name).fileName? = some n := by
  rw [fileName?_eq_some_iff] at h ⊢
  obtain ⟨hlast, hdots⟩ := h
  refine ⟨?_, hdots⟩
  rcases names_join base name with heq | heq
  · rw [heq, hlast]
  · rw [heq, List.getLast?_append, hlast, Option.some_or]

end Path

end IccProfile
