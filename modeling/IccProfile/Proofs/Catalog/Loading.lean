import IccProfile.Catalog.Basic
import IccProfile.Proofs.Files.Disk
import IccProfile.Proofs.Profile.Repair

/-!
# Loading profile files

A name is resolved to the path of a file (`isFile_of_resolve?`), and to the same path on
every disk of the same shape (`resolve?_of_sameShape`). `Profile.load_of_file` says what
loading a file gives: the profile of its bytes, or this profile with its ID stored in it, and
in the file when this can be written. Nothing but a file that holds a profile is ever changed
(`SameOutsideProfiles`).
-/

set_option autoImplicit false

namespace IccProfile

variable {d e : Disk} {path : Path}

namespace SearchPaths

/-- A name is resolved alike on disks of one shape. -/
theorem resolve?_of_sameShape (h : Disk.SameShape d e) (s : SearchPaths) (name : Path) :
    s.resolve? e name = s.resolve? d name := by
  have hfile : e.isFile = d.isFile := funext h.isFile_eq
  simp only [resolve?, workingPath, h.working_eq, hfile]

/-- A name is resolved to the path of a file. -/
theorem isFile_of_resolve? {s : SearchPaths} {name : Path} (h : s.resolve? d name = some path) :
    d.isFile path = true := by
  unfold resolve? at h
  split at h
  · cases h
  · split at h
    -- an absolute name stands for itself
    · split at h
      · next hfile =>
          obtain rfl := Option.some.inj h
          exact hfile
      · cases h
    · exact List.find?_some h

end SearchPaths

namespace Profile

/-- The profile of the bytes of a file. -/
def ofFile (path : Path) (data : Bytes) (h : headerSize ≤ data.length) : Profile :=
  { fresh data h with fileName := some path }

section OfFile

variable {data : Bytes} (path) (h : Accepted data)
include h

/-- It is written as the bytes of the file. -/
theorem toBytes_ofFile : (ofFile path data h.headerSize_le).toBytes = data := rfl

/-- Its identity is computed from them. -/
theorem computedId_ofFile :
    (ofFile path data h.headerSize_le).computedId = ProfileId.ofContent data := rfl

/-- Its major version is the ninth of them. -/
theorem major_ofFile : (ofFile path data h.headerSize_le).version.major = data.getD 8 0 := by
  have hheader : (ofFile path data h.headerSize_le).version =
      Version.ofWord (HeaderField.version.read (data.take headerSize)) := rfl
  have hlength : headerSize ≤ (data.take headerSize).length := by
    rw [List.length_take, Nat.min_eq_left h.headerSize_le]
  rw [hheader, HeaderField.major_read_version hlength, List.getD_eq_getElem?_getD,
    List.getD_eq_getElem?_getD, List.getElem?_take_of_lt (by decide)]

end OfFile

section Load

variable {data : Bytes} {place : Place} {time : Nat} {flags : LoadFlags}

/-- An accepted file of a version that is asked for is loaded as it is when its ID is not to be
repaired or is valid; else its identity is stored in the profile, and in the file unless this is
locked. -/
theorem load_of_file (hplace : d.locate path = .ok place)
    (hfile : d.entry? place = some (.file data time)) (h : Accepted data)
    (hversion : flags.accepts (data.getD 8 0) = true) :
    load d path flags =
      if flags.noRepair || (ofFile path data h.headerSize_le).version.major < 4 ||
          (ofFile path data h.headerSize_le).checkId.isValid then
        (.ok (ofFile path data h.headerSize_le), d)
      else
        (.ok (ofFile path data h.headerSize_le).repairId,
          if place ∈ d.locked then d
          else d.putFile place ((ProfileId.ofContent data).stamp data)) := by
  have hread : d.read path = .ok data := Disk.read_ok_iff.mpr ⟨place, time, hplace, hfile⟩
  have hprofile : ofBytesWith flags data = .ok (fresh data h.headerSize_le) :=
    ofBytesWith_ok_iff.mpr ⟨h, hversion, rfl⟩
  have hbytes : (ofFile path data h.headerSize_le).repairId.toBytes =
      (ProfileId.ofContent data).stamp data := by
    rw [toBytes_repairId, computedId_ofFile path h, toBytes_ofFile path h]
  simp only [load, hread, hprofile]
  rw [← ofFile, hbytes]
  by_cases hlocked : place ∈ d.locked
  · rw [Disk.write_of_locked hplace hfile hlocked, if_pos hlocked]
  · rw [(Disk.write_of_file hplace hfile hlocked _).1, if_neg hlocked]

/-- What was loaded was read from an accepted file of a version that was asked for. -/
theorem accepted_of_load_ok {p : Profile} (h : load d path flags = (.ok p, e)) :
    ∃ place content time, d.locate path = .ok place ∧
      d.entry? place = some (.file content time) ∧ Accepted content ∧
      flags.accepts (content.getD 8 0) = true := by
  cases hread : d.read path with
  | error fault =>
      rw [load, hread] at h
      cases h
  | ok content =>
      obtain ⟨place, time, hplace, hfile⟩ := Disk.read_ok_iff.mp hread
      cases hprofile : ofBytesWith flags content with
      | error error =>
          simp only [load, hread, hprofile] at h
          cases h
      | ok profile =>
          obtain ⟨haccepted, hversion, -⟩ := ofBytesWith_ok_iff.mp hprofile
          exact ⟨place, content, time, hplace, hfile, haccepted, hversion⟩

/-- What was loaded carries its path and has a version that was asked for. -/
theorem load_ok {p : Profile} (h : load d path flags = (.ok p, e)) :
    p.fileName = some path ∧ flags.accepts p.version.major = true := by
  obtain ⟨place, data, time, hplace, hfile, haccepted, hversion⟩ := accepted_of_load_ok h
  rw [load_of_file hplace hfile haccepted hversion] at h
  rw [← major_ofFile path haccepted] at hversion
  split at h
  · cases h
    exact ⟨rfl, hversion⟩
  · cases h
    refine ⟨fileName_repairId _, ?_⟩
    rwa [version_repairId]

/-- A load that fails changes nothing on the disk. -/
theorem disk_of_load_error {error : Error} (h : load d path flags = (.error error, e)) :
    e = d := by
  unfold load at h
  split at h
  · exact (Prod.mk.inj h).2.symm
  · split at h
    · exact (Prod.mk.inj h).2.symm
    · simp only at h
      split at h
      · cases h
      · split at h <;> cases h

end Load

end Profile

namespace Disk

/-- Directories and files stay where they are, and every place that does not hold a profile stays
as it was. -/
structure SameOutsideProfiles (d e : Disk) : Prop extends SameShape d e where
  entry_eq : ∀ place, (∀ content time, d.entry? place = some (.file content time) →
    ¬ Profile.Accepted content) → e.entry? place = d.entry? place

namespace SameOutsideProfiles

theorem refl (d : Disk) : SameOutsideProfiles d d := ⟨sameShape_refl d, fun _ _ => rfl⟩

theorem trans {f : Disk} (hde : SameOutsideProfiles d e) (hef : SameOutsideProfiles e f) :
    SameOutsideProfiles d f where
  toSameShape := hde.toSameShape.trans hef.toSameShape
  entry_eq := by
    intro place hother
    have hkept := hde.entry_eq place hother
    rw [← hkept] at hother
    exact (hef.entry_eq place hother).trans hkept

/-- A file that is not a profile is read as before. -/
theorem read_eq (h : SameOutsideProfiles d e) {content : Bytes} (hread : d.read path = .ok content)
    (hother : ¬ Profile.Accepted content) : e.read path = .ok content := by
  obtain ⟨place, time, hplace, hfile⟩ := read_ok_iff.mp hread
  refine read_ok_iff.mpr ⟨place, time, (h.locate_eq path).trans hplace, ?_⟩
  rw [h.entry_eq place, hfile]
  intro held other hheld
  rw [hfile] at hheld
  cases hheld
  exact hother

end SameOutsideProfiles

/-- Loading a file leaves everything that does not hold a profile. -/
theorem sameOutsideProfiles_load (d : Disk) (path : Path) (flags : LoadFlags) :
    SameOutsideProfiles d (Profile.load d path flags).2 := by
  cases hload : Profile.load d path flags with
  | mk result e =>
      cases result with
      | error error =>
          rw [Profile.disk_of_load_error hload]
          exact .refl d
      | ok p =>
          obtain ⟨place, content, time, hplace, hfile, haccepted, hversion⟩ :=
            Profile.accepted_of_load_ok hload
          rw [Profile.load_of_file hplace hfile haccepted hversion] at hload
          split at hload
          · cases hload
            exact .refl d
          · cases hload
            split
            · exact .refl d
            -- the one file that is written held a profile
            · refine ⟨sameShape_putFile hfile _, ?_⟩
              intro other hother
              have hne : other ≠ place := by
                rintro rfl
                exact hother content time hfile haccepted
              rw [entry_putFile (ne_nil_of_file hfile), if_neg hne]

end Disk

end IccProfile
