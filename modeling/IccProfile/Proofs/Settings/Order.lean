import IccProfile.Proofs.Settings.Entries

/-!
# The order of the paths

The paths of settings ascend, whatever is set or erased (`ascending_set`). The paths that start
with a text follow each other in this order, and the first of them is the first path that is not
below the text (`isPrefix_of_between`). So going on from there as long as the paths start with
the text gives all of them (`keys_eq_filter`).
-/

set_option autoImplicit false

namespace IccProfile.Settings

variable {s : Settings} {path value start : String} {entries : List (String × String)}

/-! ## Ascending paths -/

/-- Each path is below all that follow it. -/
def Ascending (entries : List (String × String)) : Prop := (entries.map (·.1)).Pairwise (· < ·)

/-- A value that is put in stands under its path, and the other paths stay. -/
theorem mem_insertEntry {entry : String × String} (h : entry ∈ insertEntry path value entries) :
    entry = (path, value) ∨ entry ∈ entries := by
  induction entries with
  | nil => exact .inl (List.mem_singleton.mp h)
  | cons first rest ih =>
      rw [insertEntry] at h
      split at h
      · exact List.mem_cons.mp h
      · split at h
        · rcases List.mem_cons.mp h with rfl | hrest
          · exact .inl rfl
          · exact .inr (List.mem_cons_of_mem _ hrest)
        · rcases List.mem_cons.mp h with rfl | hrest
          · exact .inr List.mem_cons_self
          · exact (ih hrest).imp_right (List.mem_cons_of_mem _)

theorem ascending_cons {first : String × String} :
    Ascending (first :: entries) ↔ (∀ e ∈ entries, first.1 < e.1) ∧ Ascending entries := by
  rw [Ascending, List.map_cons, List.pairwise_cons, List.forall_mem_map, Ascending]

theorem ascending_insertEntry (path value : String) (h : Ascending entries) :
    Ascending (insertEntry path value entries) := by
  induction entries with
  | nil => exact List.pairwise_singleton _ _
  | cons first rest ih =>
      obtain ⟨hfirst, hrest⟩ := ascending_cons.mp h
      rw [insertEntry]
      split
      · next hbelow =>
          refine ascending_cons.mpr ⟨?_, h⟩
          intro e he
          rcases List.mem_cons.mp he with rfl | he
          · exact hbelow
          · exact String.lt_trans hbelow (hfirst e he)
      · next hnot =>
          split
          · next hsame =>
              refine ascending_cons.mpr ⟨?_, hrest⟩
              rw [hsame]
              exact hfirst
          · next hother =>
              refine ascending_cons.mpr ⟨?_, ih hrest⟩
              intro e he
              rcases mem_insertEntry he with rfl | he
              · exact Std.lt_of_le_of_ne (String.not_lt.mp hnot) (Ne.symm hother)
              · exact hfirst e he

/-- Setting and erasing keep the order. -/
theorem ascending_set (path : String) (value? : Option String) (h : Ascending s.entries) :
    Ascending (s.set path value?).entries := by
  cases value? with
  | some value => exact ascending_insertEntry path value h
  | none => exact List.Pairwise.sublist (List.filter_sublist.map _) h

/-! ## Entries put in one after the other -/

theorem insertEntry_of_forall_lt (h : ∀ e ∈ entries, e.1 < path) :
    insertEntry path value entries = entries ++ [(path, value)] := by
  induction entries with
  | nil => rfl
  | cons first rest ih =>
      have hfirst : first.1 < path := h first List.mem_cons_self
      rw [insertEntry, if_neg (String.lt_asymm hfirst),
        if_neg fun heq => String.ne_of_lt hfirst heq.symm,
        ih fun e he => h e (List.mem_cons_of_mem _ he), List.cons_append]

/-- Entries in ascending order are put behind each other. -/
theorem ofPairs_of_ascending (h : Ascending entries) : ofPairs entries = ⟨entries⟩ := by
  have hfold : ∀ rest held : List (String × String), Ascending (held ++ rest) →
      rest.foldl (fun s e => s.set e.1 (some e.2)) (⟨held⟩ : Settings) = ⟨held ++ rest⟩ := by
    intro rest
    induction rest with
    | nil =>
        intro held _
        rw [List.foldl_nil, List.append_nil]
    | cons e rest ih =>
        intro held hascending
        have hbelow : ∀ first ∈ held, first.1 < e.1 := by
          intro first hfirst
          rw [Ascending, List.map_append, List.pairwise_append] at hascending
          exact hascending.2.2 _ (List.mem_map_of_mem hfirst) _ List.mem_cons_self
        have hrest : held ++ e :: rest = held ++ [e] ++ rest := List.append_cons ..
        rw [List.foldl_cons, set, insertEntry_of_forall_lt hbelow, hrest]
        exact ih _ (hrest ▸ hascending)
  exact hfold entries [] h

/-! ## The paths that start with a text -/

theorem startsWith_iff : startsWith start path = true ↔ start.toList <+: path.toList :=
  List.isPrefixOf_iff_prefix

/-- What lies between a text and something that starts with it starts with it as well. -/
theorem isPrefix_of_between {cs as bs : List Char} (hlow : ¬ as < cs) (hhigh : as < bs)
    (h : cs <+: bs) : cs <+: as := by
  induction cs generalizing as bs with
  | nil => exact List.nil_prefix
  | cons c cs ih =>
      obtain ⟨bs, rfl⟩ : ∃ more, bs = c :: more := by
        obtain ⟨more, rfl⟩ := h
        exact ⟨cs ++ more, rfl⟩
      cases as with
      | nil => exact absurd (List.nil_lt_cons c cs) hlow
      | cons a as =>
          rw [List.cons_lt_cons_iff] at hlow hhigh
          rcases hhigh with hless | ⟨rfl, hless⟩
          · exact absurd (.inl hless) hlow
          · rw [List.prefix_cons_inj] at h ⊢
            exact ih (fun hbelow => hlow (.inr ⟨rfl, hbelow⟩)) hless h

/-- Nothing that is below a text starts with it. -/
theorem not_startsWith_of_lt (h : path < start) : ¬ startsWith start path = true := by
  intro hstarts
  exact List.not_lt.mpr (startsWith_iff.mp hstarts).le h

/-- From the first path on that is not below the text, the paths start with it up to some path and
then no more. -/
theorem takeWhile_eq_filter {paths : List String} (hascending : paths.Pairwise (· < ·))
    (hlow : ∀ p ∈ paths, ¬ p < start) :
    paths.takeWhile (startsWith start) = paths.filter (startsWith start) := by
  induction paths with
  | nil => rfl
  | cons first rest ih =>
      obtain ⟨hfirst, hrest⟩ := List.pairwise_cons.mp hascending
      by_cases hstarts : startsWith start first = true
      · rw [List.takeWhile_cons_of_pos hstarts, List.filter_cons_of_pos hstarts,
          ih hrest fun p hp => hlow p (List.mem_cons_of_mem _ hp)]
      · rw [List.takeWhile_cons_of_neg hstarts, List.filter_cons_of_neg hstarts]
        refine (List.filter_eq_nil_iff.mpr ?_).symm
        intro p hp hlater
        exact hstarts (startsWith_iff.mpr (isPrefix_of_between
          (hlow first List.mem_cons_self) (hfirst p hp) (startsWith_iff.mp hlater)))

/-- The listed paths are all that start with the text, in their order. -/
theorem keys_eq_filter (h : Ascending s.entries) (start : String) :
    s.keys start = (s.entries.map (·.1)).filter (startsWith start) := by
  have hpaths : ∀ paths : List String, paths.Pairwise (· < ·) →
      (paths.dropWhile (· < start)).takeWhile (startsWith start) =
        paths.filter (startsWith start) := by
    intro paths hascending
    induction paths with
    | nil => rfl
    | cons first rest ih =>
        obtain ⟨hfirst, hrest⟩ := List.pairwise_cons.mp hascending
        by_cases hbelow : first < start
        · rw [List.dropWhile_cons, if_pos (decide_eq_true hbelow), ih hrest,
            List.filter_cons_of_neg (not_startsWith_of_lt hbelow)]
        · rw [List.dropWhile_cons, if_neg (by simpa using hbelow)]
          refine takeWhile_eq_filter hascending ?_
          intro p hp
          rcases List.mem_cons.mp hp with rfl | hp
          · exact hbelow
          · exact fun hlt => hbelow (String.lt_trans (hfirst p hp) hlt)
  exact hpaths _ h

end IccProfile.Settings
