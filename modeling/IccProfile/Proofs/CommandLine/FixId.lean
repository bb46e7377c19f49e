import IccProfile.CommandLine.Session
import IccProfile.Proofs.Catalog.Loading
import IccProfile.Proofs.Files.Place
import IccProfile.Proofs.Profile.Representation

/-!
# Fixing the ID of a file

`fixId_eq` says what fixing the ID of an accepted file does: the computed identity is
stored in the file, and a line tells what became of the ID. The file is found again on the
disk that is left, so the command can be run once more, and then it finds the ID valid
(`checkId_ofFile_stamp`). With a file that cannot be written the command fails and changes
nothing (`fixId_of_locked`).

`repair_alters_only_id` collects what storing an identity changes, in a profile and in a
file.
-/

set_option autoImplicit false

namespace IccProfile.CommandLine.Session

/-- The session on another disk. -/
def onDisk (s : Session) (disk : Disk) : Session := s.withWorkspace { s.workspace with disk }

/-- The line that tells what became of the ID of a file. -/
def fixLine (file : Path) (id : ProfileId) (note : String) : String :=
  file.text ++ ": " ++ id.toHex ++ " (" ++ note ++ ")\n"

variable {s : Session} {name file : Path} {data : Bytes} {place : Place} {time : Nat}

/-- To fix its ID an accepted file is loaded as it is. -/
theorem load_inspecting (hplace : s.workspace.disk.locate file = .ok place)
    (hfile : s.workspace.disk.entry? place = some (.file data time)) (h : Profile.Accepted data) :
    Profile.load s.workspace.disk file inspecting =
      (.ok (Profile.ofFile file data h.headerSize_le), s.workspace.disk) :=
  Profile.load_of_file hplace hfile h rfl

/-- The computed identity of an accepted file is stored in it. -/
theorem fixId_eq (hname : s.workspace.resolve? name = some file)
    (hplace : s.workspace.disk.locate file = .ok place)
    (hfile : s.workspace.disk.entry? place = some (.file data time)) (h : Profile.Accepted data)
    (hfree : place ∉ s.workspace.disk.locked) :
    s.fixId name =
      (.ok (.text (fixLine file (ProfileId.ofContent data)
        (fixNote (Profile.ofFile file data h.headerSize_le).checkId))),
      s.onDisk (s.workspace.disk.putFile place ((ProfileId.ofContent data).stamp data))) := by
  have hbytes : (Profile.ofFile file data h.headerSize_le).repairId.toBytes =
      (ProfileId.ofContent data).stamp data :=
    Profile.toBytes_repairId _
  have hwrite :=
    (Disk.write_of_file hplace hfile hfree ((ProfileId.ofContent data).stamp data)).1
  simp only [fixId, hname, load_inspecting hplace hfile h, hbytes, hwrite,
    Profile.computedId_ofFile file h]
  rfl

/-- Nothing is stored in a file that cannot be written. -/
theorem fixId_of_locked (hname : s.workspace.resolve? name = some file)
    (hplace : s.workspace.disk.locate file = .ok place)
    (hfile : s.workspace.disk.entry? place = some (.file data time)) (h : Profile.Accepted data)
    (hlocked : place ∈ s.workspace.disk.locked) : s.fixId name = (.error (.other .io), s) := by
  simp only [fixId, hname, load_inspecting hplace hfile h,
    Disk.write_of_locked hplace hfile hlocked]
  rfl

/-- A file that has its identity stored is read with a valid ID. -/
theorem checkId_ofFile_stamp (file : Path) (h : Profile.Accepted data)
    (hzero : (ProfileId.ofContent data).isZero = false)
    (hfit : headerSize ≤ ((ProfileId.ofContent data).stamp data).length) :
    (Profile.ofFile file ((ProfileId.ofContent data).stamp data) hfit).checkId = .valid := by
  have hembedded :
      (Profile.ofFile file ((ProfileId.ofContent data).stamp data) hfit).embeddedId? =
        some (ProfileId.ofContent data) := by
    have hheader : headerSize ≤ (data.take headerSize).length := by
      rw [List.length_take, Nat.min_eq_left h.headerSize_le]
    have hstored := ProfileId.embedded?_stamp (ProfileId.ofContent data) hheader
    rw [← ProfileId.take_stamp _ h.headerSize_le, hzero] at hstored
    exact hstored
  have hcomputed :
      (Profile.ofFile file ((ProfileId.ofContent data).stamp data) hfit).computedId =
        ProfileId.ofContent data :=
    ProfileId.ofContent_stamp _ h.headerSize_le
  rw [Profile.checkId, hembedded, hcomputed]
  exact if_pos rfl

/-- Storing the identity of a profile with a header, or of an accepted file, sets the ID and
nothing else. What was stored is found valid, and storing it once more changes nothing. With a
file that cannot be written nothing is stored. -/
theorem repair_alters_only_id :
    (∀ (source : Option Bytes) (p : Profile), Profile.Reachable source p →
      p.header.isSome = true →
        ∃ q, p.serve .repairId = (.id p.computedId, q) ∧ Profile.StoresId p q) ∧
    (∀ (s : Session) (name file : Path) (data : Bytes) (p : Profile),
      s.workspace.resolve? name = some file → s.workspace.disk.read file = .ok data →
      Profile.ofBytes data = .ok p →
        (s.workspace.disk.placeOf file ∈ s.workspace.disk.locked →
          s.fixId name = (.error (.other .io), s)) ∧
        (s.workspace.disk.placeOf file ∉ s.workspace.disk.locked → ∃ disk new,
          s.fixId name =
            (.ok (.text (fixLine file p.computedId (fixNote p.checkId))), s.onDisk disk) ∧
          disk.read file = .ok new ∧ ProfileId.AlikeOutside data new ∧
          Bytes.slice? new idOffset 16 = some p.computedId.bytes ∧
          (∀ place, s.workspace.disk.locate file ≠ .ok place →
            disk.entry? place = s.workspace.disk.entry? place) ∧
          (p.computedId.isZero = false →
            ∃ again, again.read file = .ok new ∧
              (s.onDisk disk).fixId name =
                (.ok (.text (fixLine file p.computedId "unchanged")), s.onDisk again)))) := by
  refine ⟨?_, ?_⟩
  -- a profile
  · intro source p hp hheader
    exact ⟨p.repairId, rfl, hp.consistent.storesId_repairId hheader⟩
  -- a file
  · intro s name file data p hname hread hprofile
    obtain ⟨place, time, hplace, hfile⟩ := Disk.read_ok_iff.mp hread
    obtain ⟨h, -, rfl⟩ := Profile.ofBytesWith_ok_iff.mp hprofile
    rw [Disk.placeOf_of_locate hplace]
    refine ⟨fixId_of_locked hname hplace hfile h, fun hfree => ?_⟩
    let new := (ProfileId.ofContent data).stamp data
    have hshape := Disk.sameShape_putFile hfile new
    obtain ⟨-, hwritten, -⟩ := Disk.write_of_file hplace hfile hfree new
    refine ⟨s.workspace.disk.putFile place new, new, fixId_eq hname hplace hfile h hfree, hwritten,
      ProfileId.alikeOutside_stamp _ _, ProfileId.slice?_stamp _ h.headerSize_le, ?_, ?_⟩
    · intro other hother
      have hne : other ≠ place := by
        rintro rfl
        exact hother hplace
      rw [Disk.entry_putFile (Disk.ne_nil_of_file hfile), if_neg hne]
    · intro hzero
      -- the file that was written is found under the same name and accepted
      have hnew : Profile.Accepted new := (Profile.accepted_stamp_iff _).mpr h
      have hname' : (s.onDisk (s.workspace.disk.putFile place new)).workspace.resolve? name =
          some file :=
        (SearchPaths.resolve?_of_sameShape hshape _ name).trans hname
      obtain ⟨place', time', hplace', hfile'⟩ := Disk.read_ok_iff.mp hwritten
      obtain rfl : place = place' :=
        Except.ok.inj (hplace.symm.trans ((hshape.locate_eq file).symm.trans hplace'))
      have hagain := fixId_eq hname' hplace' hfile' hnew hfree
      have hid : ProfileId.ofContent new = ProfileId.ofContent data :=
        ProfileId.ofContent_stamp _ h.headerSize_le
      have hnote := checkId_ofFile_stamp file h hzero hnew.headerSize_le
      have hsame : (ProfileId.ofContent new).stamp new = new := by
        rw [hid]
        exact ProfileId.stamp_stamp _ _ _
      rw [hsame, hid, hnote] at hagain
      exact ⟨_, (Disk.write_of_file hplace' hfile' hfree new).2.1, hagain⟩

/-- A disk with the shortest container and nothing else. -/
def shelf : Session where
  workspace :=
    { catalog := { paths := ⟨[]⟩ }
      disk :=
        { entries := [(["short.icc"], .file Profile.shortest 1)]
          working := []
          clock := 1 } }
  settings := .empty
  settingsFile := ⟨"/settings.json"⟩

/-- The same disk with the file locked. -/
def lockedShelf : Session :=
  shelf.onDisk { shelf.workspace.disk with locked := [["short.icc"]] }

/-- The profile of the container, with a text and another model. -/
def annotated : Profile :=
  (((Profile.fresh Profile.shortest Profile.accepted_shortest.headerSize_le).serve
    (.addTag (Tag.ofBlock Signature.copyright (PlainText.encode "free")) none)).2.serve
    (.setField .model 7)).2

theorem reachable_annotated : Profile.Reachable (some Profile.shortest) annotated :=
  .serve _ trivial (.serve _ (.inl (.read (.ofBlock ..)))
    (.ofBytes (Profile.ofBytes_of_accepted Profile.accepted_shortest)))

theorem repair_alters_only_id_shortest :
    (∃ q, (Profile.fresh Profile.shortest Profile.accepted_shortest.headerSize_le).serve .repairId =
        (.id (ProfileId.ofContent Profile.shortest), q) ∧ q.checkId = .valid) ∧
      (annotated.modified = true ∧ annotated.tags.length = 1 ∧
        ∃ q, annotated.serve .repairId = (.id annotated.computedId, q) ∧ q.checkId = .valid ∧
          q.toBytes = annotated.toBytes) ∧
      lockedShelf.fixId ⟨"/short.icc"⟩ = (.error (.other .io), lockedShelf) ∧
      ∃ disk again,
        shelf.fixId ⟨"/short.icc"⟩ =
          (.ok (.text (fixLine ⟨"/short.icc"⟩ (ProfileId.ofContent Profile.shortest) "added")),
            shelf.onDisk disk) ∧
        (shelf.onDisk disk).fixId ⟨"/short.icc"⟩ =
          (.ok (.text (fixLine ⟨"/short.icc"⟩ (ProfileId.ofContent Profile.shortest) "unchanged")),
            shelf.onDisk again) := by
  have hzero : (ProfileId.ofContent Profile.shortest).isZero = false := by decide +kernel
  have hread : Profile.ofBytesWith {} Profile.shortest =
      .ok (Profile.fresh Profile.shortest Profile.accepted_shortest.headerSize_le) :=
    Profile.ofBytes_of_accepted Profile.accepted_shortest
  obtain ⟨hprofile, hfile⟩ := repair_alters_only_id
  refine ⟨?_, ⟨rfl, by decide +kernel, ?_⟩, ?_, ?_⟩
  · obtain ⟨q, hq, hstores⟩ := hprofile (some Profile.shortest) _ (.ofBytes hread) rfl
    exact ⟨q, hq, hstores.checkId_eq hzero⟩
  · obtain ⟨q, hq, hstores⟩ := hprofile _ _ reachable_annotated rfl
    exact ⟨q, hq, hstores.checkId_eq (by decide +kernel), hstores.toBytes_eq rfl⟩
  · have hname : lockedShelf.workspace.resolve? ⟨"/short.icc"⟩ = some ⟨"/short.icc"⟩ := by
      decide +kernel
    have hdata : lockedShelf.workspace.disk.read ⟨"/short.icc"⟩ = .ok Profile.shortest := by rfl
    exact (hfile _ _ _ _ _ hname hdata hread).1 (by decide +kernel)
  · have hname : shelf.workspace.resolve? ⟨"/short.icc"⟩ = some ⟨"/short.icc"⟩ := by decide +kernel
    have hdata : shelf.workspace.disk.read ⟨"/short.icc"⟩ = .ok Profile.shortest := by rfl
    have hnote : (Profile.fresh Profile.shortest
        Profile.accepted_shortest.headerSize_le).checkId = .missing := by
      decide +kernel
    obtain ⟨disk, new, hfirst, -, -, -, -, hsecond⟩ :=
      (hfile _ _ _ _ _ hname hdata hread).2 List.not_mem_nil
    rw [hnote] at hfirst
    obtain ⟨again, -, hagain⟩ := hsecond hzero
    exact ⟨disk, again, hfirst, hagain⟩

end IccProfile.CommandLine.Session
