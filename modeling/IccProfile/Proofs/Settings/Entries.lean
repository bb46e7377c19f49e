import IccProfile.Settings.Basic

/-!
# Values by path

A value that is set is found under its path, a path that is erased has none, and nothing changes
under the others (`get?_set`). The paths of an assigned profile and of a rank map end in different
names, so an assignment is found afterwards (`assignedProfile?_assignProfile`) and leaves
the rank maps of all devices (`storedRankMap_assignProfile`).
-/

set_option autoImplicit false

namespace IccProfile.Settings

variable {s : Settings} {device other : Device}

theorem lookup_insertEntry (path value key : String) (entries : List (String × String)) :
    (insertEntry path value entries).lookup key =
      if key = path then some value else entries.lookup key := by
  induction entries with
  | nil =>
      rw [insertEntry, List.lookup_cons]
      by_cases hkey : key = path
      · rw [if_pos hkey, beq_iff_eq.mpr hkey]
      · rw [if_neg hkey, beq_eq_false_iff_ne.mpr hkey]
  | cons first rest ih =>
      obtain ⟨p, v⟩ := first
      rw [insertEntry]
      split
      -- the value comes before the first one
      · rw [List.lookup_cons]
        by_cases hkey : key = path
        · rw [if_pos hkey, beq_iff_eq.mpr hkey]
        · rw [if_neg hkey, beq_eq_false_iff_ne.mpr hkey]
      · split
        -- it takes the place of the first one
        · next hsame =>
            subst hsame
            rw [List.lookup_cons, List.lookup_cons]
            by_cases hkey : key = path
            · rw [if_pos hkey, beq_iff_eq.mpr hkey]
            · rw [if_neg hkey, beq_eq_false_iff_ne.mpr hkey]
        · next hother =>
            rw [List.lookup_cons, List.lookup_cons, ih]
            by_cases hfirst : key = p
            · have hkey : key ≠ path := fun heq => hother (heq.symm.trans hfirst)
              rw [if_neg hkey, if_neg hkey]
            · rw [beq_eq_false_iff_ne.mpr hfirst]

theorem lookup_erase (path key : String) (entries : List (String × String)) :
    (entries.filter (·.1 ≠ path)).lookup key =
      if key = path then none else entries.lookup key := by
  induction entries with
  | nil => exact (ite_self _).symm
  | cons first rest ih =>
      by_cases hfirst : first.1 = path
      · rw [List.filter_cons_of_neg (by simp [hfirst]), ih, List.lookup_cons, hfirst]
        by_cases hkey : key = path
        · rw [if_pos hkey, if_pos hkey]
        · rw [if_neg hkey, if_neg hkey, beq_eq_false_iff_ne.mpr hkey]
      · rw [List.filter_cons_of_pos (by simp [hfirst]), List.lookup_cons, List.lookup_cons, ih]
        by_cases hkey : key = first.1
        · have hne : key ≠ path := fun heq => hfirst (hkey.symm.trans heq)
          rw [beq_iff_eq.mpr hkey, if_neg hne, if_neg hne]
        · rw [beq_eq_false_iff_ne.mpr hkey]

/-- What is set is found under its path, what is erased is not, and all else is as before. -/
theorem get?_set (s : Settings) (path : String) (value? : Option String) (key : String) :
    (s.set path value?).get? key = if key = path then value? else s.get? key := by
  cases value? with
  | none => exact lookup_erase path key s.entries
  | some value => exact lookup_insertEntry path value key s.entries

/-- Nothing changes under other paths. -/
theorem get?_set_of_ne {path key : String} (h : key ≠ path) (s : Settings)
    (value? : Option String) : (s.set path value?).get? key = s.get? key := by
  rw [get?_set, if_neg h]

theorem rankMapPath_ne_profilePath (device other : Device) :
    rankMapPath device ≠ profilePath other := by
  intro heq
  have hmap : "rank_map".toList.getLast? = some 'p' := by decide
  have hname : "profile_name".toList.getLast? = some 'e' := by decide
  have hlast := congrArg (fun path : String => path.toList.getLast?) heq
  simp only [rankMapPath, profilePath, devicePath, String.toList_append, List.getLast?_append,
    hmap, hname, Option.some_or, Option.some.injEq] at hlast
  exact absurd hlast (by decide)

/-- An assigned profile is found by its name. -/
theorem assignedProfile?_assignProfile (s : Settings) (device : Device) {name : String}
    (h : name ≠ "") : (s.assignProfile device (some name)).assignedProfile? device = some name := by
  rw [assignedProfile?, assignProfile, get?_set, if_pos rfl, Option.filter_some,
    if_pos (decide_eq_true h)]

/-- An assignment leaves the rank maps. -/
theorem storedRankMap_assignProfile (s : Settings) (device other : Device) (name : String) :
    (s.assignProfile device (some name)).storedRankMap other = s.storedRankMap other := by
  rw [storedRankMap, storedRankMap, assignProfile, get?_set,
    if_neg (rankMapPath_ne_profilePath other device)]

end IccProfile.Settings
