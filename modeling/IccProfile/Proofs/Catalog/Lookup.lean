import IccProfile.Proofs.Catalog.UpToDate
import IccProfile.Proofs.Profile.Representation

/-!
# The file of a profile

Looking for the file of a profile answers with the file that the profile remembers, when
there is one, and else with a known file of its identity (`fileOf_cases`). The second way
compares identities; the first one does not. So the file that is found loads as a profile
of the same identity as long as a remembered file holds the profile as it is written
(`Remembers`, `identical_in_found_file`). Where a repair was refused this takes a load that
repairs the profile once more (`Profile.load_of_unstored`). A profile that was changed after it was
loaded finds the file of what it was before (`found_file_differs`).
-/

set_option autoImplicit false

namespace IccProfile

namespace Workspace

variable {refusing : Place → Prop} {w v : Workspace} {p : Profile} {own : Path} {flags : LoadFlags}
  {test : Profile → Bool} {paths : List Path} {loaded : Loaded}

/-- What is found among files passed the test when it was opened, in a workspace that is trusted
as the one at the start is. -/
theorem Trusted.findFirst (h : Trusted refusing w)
    (hfound : w.findFirst flags test paths = (some loaded, v)) :
    ∃ u path, Trusted refusing u ∧ u.openProfile path flags = (.ok loaded, v) ∧
      test loaded.profile = true := by
  induction paths generalizing w with
  | nil =>
      rw [Workspace.findFirst] at hfound
      cases hfound
  | cons path rest ih =>
      have hnext := h.openProfile path flags
      rw [Workspace.findFirst] at hfound
      split at hfound
      · next first after hopen =>
          rw [hopen] at hnext
          split at hfound
          · next htest =>
              cases hfound
              exact ⟨w, path, h, hopen, htest⟩
          · exact ih hnext hfound
      · next error after hopen =>
          rw [hopen] at hnext
          exact ih hnext hfound

theorem Trusted.files (h : Trusted refusing w) : Trusted refusing w.files.2 := by
  unfold Workspace.files
  split
  · exact h
  · exact h.extend_cache rfl fun _ => id

/-- The file of a profile is the one it remembers, or was found by the identity. -/
theorem fileOf_cases (h : Trusted refusing w) (hfound : w.fileOf p = (some own, v)) :
    (p.fileName = some own ∧ w.disk.isFile own = true ∧ v = w) ∨
      ∃ u path loaded, Trusted refusing u ∧ u.openProfile path {} = (.ok loaded, v) ∧
        loaded.profile.id = p.id ∧ loaded.profile.fileName = some own := by
  unfold fileOf at hfound
  cases hremembered : p.fileName.filter w.disk.isFile with
  | some file =>
      rw [hremembered] at hfound
      obtain ⟨hname, hfile⟩ := Option.filter_eq_some_iff.mp hremembered
      cases hfound
      exact .inl ⟨hname, hfile, rfl⟩
  | none =>
      rw [hremembered] at hfound
      obtain ⟨hname, hafter⟩ := Prod.mk.inj hfound
      obtain ⟨loaded, hloaded, hfile⟩ := Option.bind_eq_some_iff.mp hname
      obtain ⟨u, path, hu, hopen, hid⟩ := h.files.findFirst (Prod.ext hloaded hafter)
      exact .inr ⟨u, path, loaded, hu, hopen, of_decide_eq_true hid, hfile⟩

/-- The file that a profile remembers, if it is there, holds the profile as it is written, and
this can be read. -/
def Remembers (d : Disk) (p : Profile) : Prop :=
  ∀ own, p.fileName = some own → d.isFile own = true →
    d.read own = .ok p.toBytes ∧ Profile.Accepted p.toBytes

/-- A file that holds what an unchanged profile holds loads as a profile of its identity. -/
theorem load_identical {data : Bytes} (hread : w.disk.read own = .ok data) (h : p.Holds data) :
    ∃ q, Profile.load w.disk own { noRepair := true } = (.ok q, w.disk) ∧ q.id = p.id :=
  ⟨_, Profile.load_of_keepsId hread h.accepted rfl (.inl rfl),
    (h.agree (Profile.holds_ofFile own h.accepted)).2.1⟩

/-- The file that is found for a profile loads as a profile of the same identity, when the profile
remembers no file or one that holds it as it is written. Where a repair may have been refused
it does so when the ID is to be repaired. -/
theorem identical_in_found_file {source : Option Bytes} (hp : Profile.Reachable source p)
    (hw : Used refusing w) (hremembers : Remembers w.disk p)
    (hfound : w.fileOf p = (some own, v)) :
    ∃ q, q.id = p.id ∧
      (Profile.load v.disk own { noRepair := true } = (.ok q, v.disk) ∨
        refusing (v.disk.placeOf own) ∧ (Profile.load v.disk own {}).1 = .ok q) := by
  rcases fileOf_cases hw.trusted hfound with
    ⟨hname, hfile, rfl⟩ | ⟨u, path, loaded, hu, hopen, hid, hname⟩
  -- the remembered file holds the written form, which has the identity of the profile
  · obtain ⟨hread, haccepted⟩ := hremembers own hname hfile
    obtain ⟨q, hload, hqid⟩ := load_identical hread (Profile.holds_fresh haccepted)
    exact ⟨q, hqid.trans (hp.consistent.id_reloaded haccepted.headerSize_le), .inl hload⟩
  -- the file was opened and compared
  · obtain ⟨place, file, content, data, -, hfile, hsame, hfrom, hread⟩ := hu.answer rfl hopen
    obtain rfl := Option.some.inj (hfile.symm.trans hname)
    rcases hfrom.backs with rfl | ⟨hrefused, hunstored⟩
    · obtain ⟨q, hload, hqid⟩ := load_identical hread hfrom.holds
      exact ⟨q, hqid.trans hid, .inl hload⟩
    -- the repair was refused, and a load repairs once more
    · obtain ⟨q, hload, hholds⟩ := Profile.load_of_unstored hread hunstored
      rw [← Disk.placeOf_eq_of_same v.disk hsame] at hrefused
      exact ⟨q, (hfrom.holds.agree hholds).2.1.trans hid, .inr ⟨hrefused, hload⟩⟩

/-- A directory with one profile, which is not known yet. -/
def drawer : Workspace where
  catalog := { paths := ⟨[⟨"/p"⟩]⟩ }
  disk :=
    { entries := [(["p"], .directory), (["p", "a.icc"], .file Profile.shortest 1)]
      working := []
      clock := 1 }

/-- Repairs are not refused there. -/
theorem used_drawer : Used (fun _ => False) drawer :=
  .start rfl (Disk.timely_of_entries (by decide +kernel)) (refusesAt_of_unlocked rfl)

/-- The profile of the file, with nothing that tells where it is from. -/
def unnamed : Profile := Profile.fresh Profile.shortest Profile.accepted_shortest.headerSize_le

theorem reachable_unnamed : Profile.Reachable (some Profile.shortest) unnamed :=
  .ofBytes (Profile.ofBytes_of_accepted Profile.accepted_shortest)

theorem identical_in_found_file_drawer :
    ∃ v q, drawer.fileOf unnamed = (some ⟨"/p/a.icc"⟩, v) ∧
      q.id = unnamed.id ∧
      Profile.load v.disk ⟨"/p/a.icc"⟩ { noRepair := true } = (.ok q, v.disk) := by
  have hremembers : Remembers drawer.disk unnamed := fun own hname => nomatch hname
  have hfound : (drawer.fileOf unnamed).1 = some ⟨"/p/a.icc"⟩ := by decide +kernel
  obtain ⟨q, hid, hload⟩ :=
    identical_in_found_file reachable_unnamed used_drawer hremembers (Prod.ext hfound rfl)
  exact ⟨_, q, Prod.ext hfound rfl, hid, hload.resolve_right And.left⟩

/-- The profile of the file, which remembers the file and was given another color space. -/
def recolored : Profile :=
  ((unnamed.serve (.setFileName (some ⟨"/p/a.icc"⟩))).2.serve
    (.setField .colorSpace 0x52474220)).2

/-- The file that a changed profile remembers is found, though it holds the profile as it was. -/
theorem found_file_differs :
    Profile.Reachable (some Profile.shortest) recolored ∧
      drawer.fileOf recolored = (some ⟨"/p/a.icc"⟩, drawer) ∧
      ∃ q, Profile.load drawer.disk ⟨"/p/a.icc"⟩ { noRepair := true } = (.ok q, drawer.disk) ∧
        q.id ≠ recolored.id := by
  have hread : drawer.disk.read ⟨"/p/a.icc"⟩ = .ok Profile.shortest := by rfl
  obtain ⟨q, hload, hid⟩ := load_identical hread (Profile.holds_fresh Profile.accepted_shortest)
  refine ⟨.serve _ trivial (.serve _ trivial reachable_unnamed), ?_, q, hload, ?_⟩
  · rfl
  · rw [hid]
    decide +kernel

end Workspace

end IccProfile
