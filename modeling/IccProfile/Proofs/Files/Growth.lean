import IccProfile.Proofs.Files.Times

/-!
# Writing into new directories

Before a file is written the directories above it are made where they are missing. All that
happens to the disk is that it grows: directories stay, files stay but the one that is
written (`GrowsBut`, `growsBut_writeDeep`). So every path that led to another file leads
there still, and it is read as before (`GrowsBut.read_eq`).
-/

set_option autoImplicit false

namespace IccProfile

/-- When a computation in two steps succeeds, both steps do. -/
theorem bind_ok {ε α β : Type} {x : Except ε α} {next : α → Except ε β} {b : β}
    (h : (x >>= next) = .ok b) : ∃ a, x = .ok a ∧ next a = .ok b := by
  cases x with
  | error e => cases h
  | ok a => exact ⟨a, rfl, h⟩

namespace Disk

variable {d e f : Disk} {place start found : Place} {p : Path} {content : Bytes}
  {segments : List String}

/-- A disk follows another and has all its directories, and all its files but one. -/
structure GrowsBut (place : Place) (d e : Disk) : Prop extends Later d e where
  locked_eq : e.locked = d.locked
  entry_eq : ∀ other entry, d.entry? other = some entry → other ≠ place ∨ entry = .directory →
    e.entry? other = some entry

namespace GrowsBut

theorem refl (place : Place) (d : Disk) : GrowsBut place d d :=
  ⟨later_refl d, rfl, fun _ _ hentry _ => hentry⟩

theorem trans (hde : GrowsBut place d e) (hef : GrowsBut place e f) : GrowsBut place d f where
  toLater := hde.toLater.trans hef.toLater
  locked_eq := hef.locked_eq.trans hde.locked_eq
  entry_eq := fun other entry hentry hkept =>
    hef.entry_eq other entry (hde.entry_eq other entry hentry hkept) hkept

/-- A walk that comes to its end does so as well afterwards. -/
theorem walk_ok (h : GrowsBut place d e) (hwalk : d.walk start segments = .ok found) :
    e.walk start segments = .ok found := by
  induction segments generalizing start with
  | nil => exact hwalk
  | cons segment rest ih =>
      obtain ⟨hdirectory, next, hnext, hrest⟩ := walk_cons_ok_iff.mp hwalk
      exact walk_cons_ok_iff.mpr
        ⟨h.entry_eq start _ hdirectory (.inr rfl), next, hnext, ih hrest⟩

theorem locate_ok (h : GrowsBut place d e) (hlocate : d.locate p = .ok found) :
    e.locate p = .ok found := by
  obtain ⟨husable, hempty, hwalk⟩ := locate_ok_iff.mp hlocate
  refine locate_ok_iff.mpr ⟨husable, hempty, ?_⟩
  rw [h.working_eq]
  exact h.walk_ok hwalk

/-- Other files are read as before. -/
theorem read_eq (h : GrowsBut place d e) (hread : d.read p = .ok content)
    (hother : d.placeOf p ≠ place) : e.read p = .ok content := by
  obtain ⟨held, time, hlocate, hfile⟩ := read_ok_iff.mp hread
  rw [placeOf_of_locate hlocate] at hother
  exact read_ok_iff.mpr
    ⟨held, time, h.locate_ok hlocate, h.entry_eq held _ hfile (.inl hother)⟩

end GrowsBut

/-- A directory that is made where there is nothing leaves everything else. -/
theorem growsBut_putDirectory {made : Place} (h : d.entry? made = none) :
    GrowsBut place d { d with entries := putEntry made .directory d.entries } := by
  have hroot : made ≠ [] := by
    rintro rfl
    rw [Disk.entry?, if_pos rfl] at h
    cases h
  have hentry : ∀ other,
      entry? { d with entries := putEntry made .directory d.entries } other =
        if other = made then some .directory else d.entry? other := by
    intro other
    unfold entry?
    by_cases hempty : other = []
    · rw [if_pos hempty, if_pos hempty, if_neg (fun heq => hroot (heq.symm.trans hempty))]
    · rw [if_neg hempty, if_neg hempty, lookup_putEntry]
  refine ⟨⟨rfl, Nat.le_refl _, ?_⟩, rfl, ?_⟩
  · intro other content time hfile
    rw [hentry] at hfile
    split at hfile
    · cases hfile
    · exact .inl hfile
  · intro other entry hheld _
    rw [hentry, if_neg]
    · exact hheld
    · rintro rfl
      rw [h] at hheld
      cases hheld

theorem growsBut_makeDirectory (h : d.makeDirectory p = .ok e) : GrowsBut place d e := by
  unfold makeDirectory at h
  obtain ⟨made, -, hmade⟩ := bind_ok h
  split at hmade
  · cases hmade
  · next hnone =>
      split at hmade
      · cases hmade
      · obtain rfl := Except.ok.inj hmade
        exact growsBut_putDirectory hnone

theorem growsBut_ensureDirectory (h : d.ensureDirectory p = .ok e) : GrowsBut place d e := by
  unfold ensureDirectory at h
  split at h
  · next made hmade =>
      obtain rfl := Except.ok.inj h
      exact growsBut_makeDirectory hmade
  · split at h
    · obtain rfl := Except.ok.inj h
      exact .refl place d
    · cases h

theorem growsBut_ensureAlong (d : Disk) (paths : List Path) :
    GrowsBut place d (d.ensureAlong paths).2 := by
  induction paths generalizing d with
  | nil => exact .refl place d
  | cons p above ih =>
      rw [ensureAlong]
      split
      · next hmade => exact growsBut_ensureDirectory hmade
      · exact .refl place d
      -- the directories above are made first
      · have habove := ih d
        split
        · next heq =>
            rw [heq] at habove
            exact habove
        · next heq =>
            rw [heq] at habove
            split
            · next hmade => exact habove.trans (growsBut_ensureDirectory hmade)
            · exact habove

theorem growsBut_makeDirectories (d : Disk) (p : Path) :
    GrowsBut place d (d.makeDirectories p).2 := by
  unfold makeDirectories
  split
  · exact .refl place d
  · exact growsBut_ensureAlong d _

/-- The root is a directory. -/
theorem ne_nil_of_not_directory (h : d.entry? place ≠ some .directory) : place ≠ [] := by
  rintro rfl
  unfold entry? at h
  rw [if_pos rfl] at h
  exact h rfl

theorem growsBut_write (h : d.write p content = .ok e) : GrowsBut (d.placeOf p) d e := by
  obtain ⟨written, hlocate, hwrite, rfl⟩ := write_ok_iff.mp h
  obtain rfl := placeOf_of_locate hlocate
  have hdirectory := not_directory_of_canWrite hwrite
  have hroot : d.placeOf p ≠ [] := ne_nil_of_not_directory hdirectory
  refine ⟨later_putFile hroot d content, rfl, ?_⟩
  intro other entry hentry hkept
  rw [entry_putFile hroot, if_neg]
  · exact hentry
  · rintro rfl
    rcases hkept with hother | rfl
    · exact hother rfl
    · exact hdirectory hentry

/-- What was written is read at the same path. -/
theorem read_of_write (h : d.write p content = .ok e) : e.read p = .ok content := by
  have hgrows := growsBut_write h
  obtain ⟨written, hlocate, hwrite, rfl⟩ := write_ok_iff.mp h
  refine read_ok_iff.mpr ⟨written, d.clock + 1, hgrows.locate_ok hlocate, ?_⟩
  rw [entry_putFile (ne_nil_of_not_directory (not_directory_of_canWrite hwrite)), if_pos rfl]

/-- So it is when directories were made for it. -/
theorem read_of_writeDeep (h : d.writeDeep p content = (.ok (), e)) : e.read p = .ok content := by
  unfold writeDeep at h
  dsimp only at h
  split at h
  · cases h
  · split at h
    · next hwritten =>
        obtain rfl := (Prod.mk.inj h).2
        exact read_of_write hwritten
    · cases h

/-- Writing a file leaves all others, whatever directories are made for it. -/
theorem growsBut_writeDeep (d : Disk) (p : Path) (content : Bytes) :
    GrowsBut (d.placeOf p) d (d.writeDeep p content).2 := by
  unfold writeDeep
  cases p.parent? with
  | none =>
      simp only
      split
      · next hwritten => exact growsBut_write hwritten
      · exact .refl _ d
  | some parent =>
      have hmade : GrowsBut (d.placeOf p) d (d.makeDirectories parent).2 :=
        growsBut_makeDirectories d parent
      cases hdirectories : d.makeDirectories parent with
      | mk result made =>
          simp only [hdirectories] at hmade ⊢
          cases result with
          | error fault => exact hmade
          | ok done =>
              simp only
              split
              · next hwritten =>
                  have hfile := growsBut_write hwritten
                  rw [placeOf_eq_of_working hmade.working_eq] at hfile
                  exact hmade.trans hfile
              · exact hmade

end Disk

end IccProfile
