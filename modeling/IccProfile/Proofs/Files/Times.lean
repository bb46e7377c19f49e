import IccProfile.Proofs.Files.Place

/-!
# The times of files

No file carries a time that the clock of its disk has not come to (`Timely`). A disk is
`Later` than another when its files are those of the other one or were written after its
clock; so the time that a file had then tells whether it still is what it was
(`Later.file_of_time`). Writing makes a later disk (`later_putFile`).
-/

set_option autoImplicit false

namespace IccProfile.Disk

variable {d e f : Disk} {place : Place} {content : Bytes} {time : Nat}

/-- No file carries a time that the clock has not come to. -/
def Timely (d : Disk) : Prop :=
  ∀ place content time, d.entry? place = some (.file content time) → time ≤ d.clock

/-- The time of a file, none for a directory. -/
def timeOf : DiskEntry → Option Nat
  | .directory => none
  | .file _ time => some time

/-- The entries tell that no file is ahead of the clock. -/
theorem timely_of_entries
    (h : ∀ entry ∈ d.entries, ∀ time ∈ timeOf entry.2, time ≤ d.clock) : d.Timely := by
  intro place content time hfile
  rw [Disk.entry?, if_neg (ne_nil_of_file hfile)] at hfile
  obtain ⟨before, after, hentries, -⟩ := List.lookup_eq_some_iff.mp hfile
  refine h (place, .file content time) ?_ time rfl
  rw [hentries]
  exact List.mem_append_right before List.mem_cons_self

/-- A disk follows another: its files are those of the other or were written after its clock. -/
structure Later (d e : Disk) : Prop where
  working_eq : e.working = d.working
  clock_le : d.clock ≤ e.clock
  file : ∀ place content time, e.entry? place = some (.file content time) →
    d.entry? place = some (.file content time) ∨ d.clock < time ∧ time ≤ e.clock

theorem later_refl (d : Disk) : Later d d := ⟨rfl, Nat.le_refl _, fun _ _ _ => .inl⟩

namespace Later

theorem trans (hde : Later d e) (hef : Later e f) : Later d f where
  working_eq := hef.working_eq.trans hde.working_eq
  clock_le := Nat.le_trans hde.clock_le hef.clock_le
  file := by
    intro place content time hfile
    rcases hef.file place content time hfile with hkept | ⟨hafter, hbefore⟩
    · rcases hde.file place content time hkept with hkept | ⟨hafter, hbefore⟩
      · exact .inl hkept
      · exact .inr ⟨hafter, Nat.le_trans hbefore hef.clock_le⟩
    · exact .inr ⟨Nat.lt_of_le_of_lt hde.clock_le hafter, hbefore⟩

theorem timely (h : Later d e) (hd : d.Timely) : e.Timely := by
  intro place content time hfile
  rcases h.file place content time hfile with hkept | ⟨-, hbefore⟩
  · exact Nat.le_trans (hd place content time hkept) h.clock_le
  · exact hbefore

/-- A file with a time of the earlier disk was there before. -/
theorem file_of_time (h : Later d e) (hfile : e.entry? place = some (.file content time))
    (htime : time ≤ d.clock) : d.entry? place = some (.file content time) := by
  rcases h.file place content time hfile with hkept | ⟨hafter, -⟩
  · exact hkept
  · exact absurd hafter (Nat.not_lt.mpr htime)

end Later

/-- Writing makes a later disk. -/
theorem later_putFile (hplace : place ≠ []) (d : Disk) (new : Bytes) :
    Later d (d.putFile place new) where
  working_eq := rfl
  clock_le := Nat.le_succ _
  file := by
    intro other content time hfile
    rw [entry_putFile hplace] at hfile
    by_cases hother : other = place
    · rw [if_pos hother] at hfile
      cases hfile
      exact .inr ⟨Nat.lt_succ_self _, Nat.le_refl _⟩
    · rw [if_neg hother] at hfile
      exact .inl hfile

end IccProfile.Disk
