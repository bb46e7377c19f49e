import IccProfile.Proofs.Catalog.Reopening
import IccProfile.Proofs.CommandLine.Assignment
import IccProfile.Proofs.Files.Growth
import IccProfile.Proofs.Settings.Entries

/-!
# Dumping what was assigned

An assignment keeps the file name of a profile and not the directory of the file, and
dumping looks for this name in the search directories themselves. So an assigned profile is
dumped as long as its name leads back to its file (`LeadsBack`, `assigned_profile_dumped`),
which it does when the file stands in the first of the directories that has a file of this
name (`leadsBack_of_first`). The file holds the dumped bytes, but for an ID that could not be
stored in it. A file that is listed from further below is assigned and then not found
(`nested_profile_lost`).
-/

set_option autoImplicit false

namespace IccProfile.CommandLine

/-- The files that a choice of a device reads. -/
def DeviceChoice.documents (choice : DeviceChoice) : List Path :=
  choice.file :: choice.rankMap.toList

namespace Session

open Profile (ComesFrom RepairRefused Stable)
open Workspace (RefusesAt Steady)

variable {refusing : Place → Prop} {s t u v : Session} {choice : DeviceChoice} {device : Device}
  {p : Profile} {own file : Path} {name : String} {output : Output} {content data : Bytes}

/-! ## Devices -/

/-- A text is read again as long as its file is. -/
theorem readText_ok {text : String} (h : s.readText file = .ok text)
    (hread : ∀ content, s.workspace.disk.read file = .ok content →
      t.workspace.disk.read file = .ok content) : t.readText file = .ok text := by
  unfold readText Disk.readText at h ⊢
  cases hcontent : s.workspace.disk.read file with
  | error fault =>
      rw [hcontent] at h
      cases h
  | ok content =>
      rw [hcontent] at h
      rw [hread content hcontent]
      exact h

/-- A rank map is found again as long as its file is read as before, or it is stored as before. -/
theorem rankMapFor_ok {map : Option RankMap} (h : s.rankMapFor choice device = .ok map)
    (hread : ∀ file ∈ choice.documents, ∀ content, s.workspace.disk.read file = .ok content →
      t.workspace.disk.read file = .ok content)
    (hmaps : ∀ other, t.settings.storedRankMap other = s.settings.storedRankMap other) :
    t.rankMapFor choice device = .ok map := by
  unfold rankMapFor at h ⊢
  cases hchoice : choice.rankMap with
  | none =>
      simp only [hchoice, hmaps] at h ⊢
      exact h
  | some file =>
      have hmem : file ∈ choice.documents := by
        rw [DeviceChoice.documents, hchoice]
        exact List.mem_cons_of_mem _ List.mem_cons_self
      simp only [hchoice] at h ⊢
      obtain ⟨text, htext, hparsed⟩ := bind_ok h
      rw [readText_ok htext (hread file hmem)]
      exact hparsed

/-- A device is chosen again as long as its documents are read as before and the rank maps are
stored as before. -/
theorem loadDevice_ok (h : s.loadDevice choice = .ok device)
    (hread : ∀ file ∈ choice.documents, ∀ content, s.workspace.disk.read file = .ok content →
      t.workspace.disk.read file = .ok content)
    (hmaps : ∀ other, t.settings.storedRankMap other = s.settings.storedRankMap other) :
    t.loadDevice choice = .ok device := by
  unfold loadDevice at h ⊢
  obtain ⟨text, htext, h⟩ := bind_ok h
  obtain ⟨found, hfound, h⟩ := bind_ok h
  obtain ⟨map, hmap, h⟩ := bind_ok h
  rw [readText_ok htext (hread choice.file List.mem_cons_self)]
  simp only [bind, Except.bind, hfound, rankMapFor_ok hmap hread hmaps]
  exact h

/-! ## Choosing -/

/-- The profile that an assignment chooses. -/
def chosen (s : Session) (device : Device) (name : String) : Except Failure Profile × Session :=
  if name = automatic then s.bestFor device else s.namedProfile name

/-- A profile is chosen from a file, which stands for it afterwards. -/
structure ChosenFrom (refusing : Place → Prop) (s u : Session) (p : Profile) (own : Path)
    (content data : Bytes) : Prop where
  settings_eq : u.settings = s.settings
  settingsFile_eq : u.settingsFile = s.settingsFile
  sameOutside : s.workspace.disk.SameOutsideProfiles u.workspace.disk
  steady : Steady refusing u.workspace
  fileName_eq : p.fileName = some own
  comesFrom : ComesFrom refusing u.workspace.disk own p content data
  stable : Stable data

/-- The profile of a name is chosen from a file. -/
theorem chosenFrom_namedProfile (hs : Steady refusing s.workspace)
    (h : s.namedProfile name = (.ok p, u)) :
    ∃ own content data, ChosenFrom refusing s u p own content data := by
  unfold namedProfile at h
  cases hopen : s.workspace.openProfile ⟨name⟩ {} with
  | mk result w =>
      rw [hopen] at h
      cases result with
      | error cause => cases h
      | ok loaded =>
          cases h
          obtain ⟨path, own, content, data, -, hown, -, hfrom, hstable⟩ := hs.answer hopen
          have hrepair : LoadFlags.noRepair {} = false := rfl
          have hsteady := hs.openProfile ⟨name⟩ hrepair
          have hsame := s.workspace.sameOutsideProfiles_openProfile ⟨name⟩ {}
          rw [hopen] at hsteady hsame
          exact ⟨own, content, data, rfl, rfl, hsame, hsteady, hown, hfrom, hstable⟩

/-- The best profile is chosen from a file. -/
theorem chosenFrom_bestFor (hs : Steady refusing s.workspace)
    (htidy : s.workspace.catalog.Tidy) (h : s.bestFor device = (.ok p, u)) :
    ∃ own content data, ChosenFrom refusing s u p own content data := by
  rw [bestFor_eq] at h
  split at h
  · next best hbest =>
      cases h
      obtain ⟨entry, hentry, rfl⟩ := List.mem_map.mp (Matching.mem_of_select? hbest)
      obtain ⟨found, hfound, heq⟩ := mem_profiles_of_mem_listedFor hentry
      rw [← heq]
      obtain ⟨own, content, data, hown, hfrom, hstable⟩ := hs.of_mem_profiles htidy hfound
      exact ⟨own, content, data, rfl, rfl, (afterListing_eq s device).2,
        hs.profiles [classPattern device], hown, hfrom, hstable⟩
  · cases h

theorem chosenFrom_chosen (hs : Started s) (htimely : s.workspace.disk.Timely)
    (hrefuses : RefusesAt refusing s.workspace.disk) (h : s.chosen device name = (.ok p, u)) :
    ∃ own content data, ChosenFrom refusing s u p own content data := by
  have hsteady := Steady.start hs.cache_eq htimely hrefuses
  unfold chosen at h
  split at h
  · exact chosenFrom_bestFor hsteady (Catalog.Reached.start hs.cache_eq hs.known_eq).tidy h
  · exact chosenFrom_namedProfile hsteady h

/-! ## Storing -/

/-- An assignment that succeeds stores the file name of what was chosen, and writes the settings to
their file. -/
structure Stores (u t : Session) (device : Device) (n : String) : Prop where
  settings_eq : t.settings = u.settings.assignProfile device (some n)
  cache_eq : t.workspace.catalog.cache = u.workspace.catalog.cache
  growsBut : Disk.GrowsBut (u.workspace.disk.placeOf u.settingsFile) u.workspace.disk
    t.workspace.disk

theorem stores_of_storeAssignment (h : u.storeAssignment device p = (.ok output, t))
    (hfile : p.fileName = some own) :
    ∃ n, own.fileName? = some n ∧ Stores u t device n := by
  have hbind : p.fileName.bind Path.fileName? = own.fileName? := by rw [hfile, Option.bind_some]
  unfold storeAssignment at h
  rw [hbind] at h
  split at h
  · cases h
  · next n hname =>
      split at h
      · next done after hchange =>
          cases h
          obtain rfl : (u.changeSettings (u.settings.assignProfile device (some n))).2 = t :=
            congrArg Prod.snd hchange
          refine ⟨n, hname, rfl, rfl, ?_⟩
          exact Disk.growsBut_writeDeep u.workspace.disk u.settingsFile _
      · cases h

/-- An assignment that succeeds chose a profile and stored it. -/
theorem assign_ok (h : s.assign choice name = (.ok output, t))
    (hdevice : s.loadDevice choice = .ok device) (hchosen : s.chosen device name = (.ok p, u)) :
    u.storeAssignment device p = (.ok output, t) := by
  unfold chosen at hchosen
  unfold assign at h
  rw [hdevice] at h
  simp only [hchosen] at h
  exact h

/-! ## Going on -/

/-- A session goes on from another one, with its cached profiles or with none. -/
structure Follows (t v : Session) : Prop where
  settings_eq : v.settings = t.settings
  disk_eq : v.workspace.disk = t.workspace.disk
  cache : v.workspace.catalog.cache = t.workspace.catalog.cache ∨ v.workspace.catalog.cache = []

/-- A file is none that an assignment writes: the settings are kept elsewhere, and it does not hold
a profile. -/
structure Spared (s : Session) (file : Path) : Prop where
  place_ne : s.workspace.disk.placeOf file ≠ s.workspace.disk.placeOf s.settingsFile
  not_accepted : ∀ content, s.workspace.disk.read file = .ok content → ¬ Profile.Accepted content

section Follows

variable {n : String} (hfrom : ChosenFrom refusing s u p own content data)
  (hstores : Stores u t device n) (hfollows : Follows t v)
include hfrom hstores hfollows

/-- The settings are written to their file, and all other files stay. -/
theorem read_after {held : Bytes} (hread : u.workspace.disk.read file = .ok held)
    (hother : s.workspace.disk.placeOf file ≠ s.workspace.disk.placeOf s.settingsFile) :
    v.workspace.disk.read file = .ok held := by
  have hplace := Disk.placeOf_eq_of_working hfrom.sameOutside.working_eq
  rw [hfollows.disk_eq]
  refine hstores.growsBut.read_eq hread ?_
  rwa [hplace, hplace, hfrom.settingsFile_eq]

/-- What is cached can be relied on, wherever repairs are refused. -/
theorem steady_after : Steady (fun _ => True) v.workspace := by
  have hsteady : Steady (fun _ => True) u.workspace := hfrom.steady.mono fun _ _ => trivial
  refine hsteady.later ?_ (fun _ _ => trivial) ?_
  · rw [hfollows.disk_eq]
    exact hstores.growsBut.toLater
  · intro entry hentry
    rcases hfollows.cache with heq | hempty
    · rwa [heq, hstores.cache_eq] at hentry
    · rw [hempty] at hentry
      exact absurd hentry List.not_mem_nil

/-- The device is chosen again. -/
theorem loadDevice_after (hdevice : s.loadDevice choice = .ok device)
    (hdocuments : ∀ file ∈ choice.documents, Spared s file) :
    v.loadDevice choice = .ok device := by
  refine loadDevice_ok hdevice ?_ ?_
  · intro file hmem held hheld
    obtain ⟨hne, hother⟩ := hdocuments file hmem
    have hkept := hfrom.sameOutside.read_eq hheld (hother held hheld)
    exact read_after hfrom hstores hfollows hkept hne
  · intro other
    rw [hfollows.settings_eq, hstores.settings_eq, Settings.storedRankMap_assignProfile,
      hfrom.settings_eq]

/-- Dumping opens the file name that was stored. -/
theorem dump_after (hdevice : s.loadDevice choice = .ok device)
    (hdocuments : ∀ file ∈ choice.documents, Spared s file) (hname : own.fileName? = some n) :
    v.dump .profile choice =
      match v.workspace.openProfile ⟨n⟩ {} with
      | (.ok loaded, w) => (.ok (.bytes loaded.profile.toBytes), v.withWorkspace w)
      | (.error cause, w) => (.error (.other cause), v.withWorkspace w) := by
  have hassigned : v.settings.assignedProfile? device = some n := by
    rw [hfollows.settings_eq, hstores.settings_eq]
    exact Settings.assignedProfile?_assignProfile _ _ (Path.ne_empty_of_fileName? hname)
  have hdump : v.dump .profile choice = v.dumpProfile device := by
    simp only [dump, loadDevice_after hfrom hstores hfollows hdevice hdocuments]
  rw [hdump]
  cases hopen : v.workspace.openProfile ⟨n⟩ {} with
  | mk result w => cases result <;> simp only [dumpProfile, hassigned, hopen]

end Follows

/-! ## Dumping -/

/-- The file name of a path is resolved to its file. -/
def LeadsBack (v : Session) (own : Path) : Prop :=
  ∃ n found, own.fileName? = some n ∧ v.workspace.resolve? ⟨n⟩ = some found ∧
    v.workspace.disk.placeOf found = v.workspace.disk.placeOf own

/-- It is when the file stands in the first directory that has a file of this name. -/
theorem leadsBack_of_first {n : String} {dir : Path} {before after : List Path}
    (hdirs : v.workspace.catalog.paths.dirs = before ++ dir :: after)
    (hname : own.fileName? = some n) (hown : own.same (dir.join ⟨n⟩) = true)
    (hfile : v.workspace.disk.isFile (dir.join ⟨n⟩) = true)
    (hfirst : ∀ other ∈ before, v.workspace.disk.isFile (other.join ⟨n⟩) = false) :
    LeadsBack v own := by
  refine ⟨n, dir.join ⟨n⟩, hname, ?_, (Disk.placeOf_eq_of_same _ hown).symm⟩
  have hrelative : ¬ Path.isAbsolute ⟨n⟩ = true := by
    rw [Path.isAbsolute_of_fileName? hname]
    decide
  rw [Workspace.resolve?, SearchPaths.resolve?, if_neg (Path.ne_empty_of_fileName? hname),
    if_neg hrelative, hdirs, List.find?_eq_some_iff_append]
  refine ⟨hfile, before.map (·.join ⟨n⟩),
    (after ++ [SearchPaths.workingPath v.workspace.disk]).map (·.join ⟨n⟩), ?_, ?_⟩
  · rw [List.append_assoc, List.map_append]
    rfl
  · intro other hother
    obtain ⟨base, hbase, rfl⟩ := List.mem_map.mp hother
    rw [hfirst base hbase]
    rfl

/-- So it is when the file stands in the only directory. -/
theorem leadsBack_of_only {n : String} {dir : Path}
    (hdirs : v.workspace.catalog.paths.dirs = [dir]) (hname : own.fileName? = some n)
    (hown : own.same (dir.join ⟨n⟩) = true)
    (hfile : v.workspace.disk.isFile (dir.join ⟨n⟩) = true) : LeadsBack v own := by
  have hfirst : v.workspace.catalog.paths.dirs = [] ++ dir :: [] := hdirs
  exact leadsBack_of_first hfirst hname hown hfile fun _ hother => absurd hother List.not_mem_nil

/-- A profile that was assigned is dumped as it was assigned, as long as its name leads back to the
file and the assignment wrote neither into the documents of the device nor its settings into
the file. The file holds the dumped bytes, unless it cannot be written and its ID was to be
repaired: then it holds them without the repaired ID. -/
theorem assigned_profile_dumped (hs : Started s) (htimely : s.workspace.disk.Timely)
    (hassign : s.assign choice name = (.ok output, t))
    (hdevice : s.loadDevice choice = .ok device) (hchosen : s.chosen device name = (.ok p, u))
    (hfile : p.fileName = some own) (hdocuments : ∀ file ∈ choice.documents, Spared s file)
    (hsettings : s.workspace.disk.placeOf own ≠ s.workspace.disk.placeOf s.settingsFile)
    (hfollows : Follows t v) (hback : LeadsBack v own) :
    (∃ w, v.dump .profile choice = (.ok (.bytes p.toBytes), w)) ∧
      ∃ content, v.workspace.disk.read own = .ok content ∧
        (content = p.toBytes ∨
          RepairRefused s.workspace.disk {} (s.workspace.disk.placeOf own) ∧
            (ProfileId.ofContent content).stamp content = p.toBytes) := by
  obtain ⟨other, content, data, hfrom⟩ := chosenFrom_chosen hs htimely (fun _ => id) hchosen
  obtain rfl := Option.some.inj (hfile.symm.trans hfrom.fileName_eq)
  obtain ⟨n, hname, hstores⟩ :=
    stores_of_storeAssignment (assign_ok hassign hdevice hchosen) hfile
  obtain ⟨m, found, hm, hfound, hplace⟩ := hback
  obtain rfl := Option.some.inj (hname.symm.trans hm)
  have hread := read_after hfrom hstores hfollows hfrom.comesFrom.read_eq hsettings
  have hbytes := hfrom.comesFrom.holds.toBytes_eq
  refine ⟨?_, content, hread, ?_⟩
  -- the name leads to the file, which stands for what it stood for when it was chosen
  · have hnow := Disk.read_of_placeOf_eq (SearchPaths.isFile_of_resolve? hfound) hplace hread
    obtain ⟨loaded, w, hopen, hholds⟩ := (steady_after hfrom hstores hfollows).reopen hfound hnow
      (hfrom.comesFrom.backs.imp_right fun hunstored => ⟨trivial, hunstored.2⟩) hfrom.stable
    refine ⟨v.withWorkspace w, ?_⟩
    rw [dump_after hfrom hstores hfollows hdevice hdocuments hname, hopen]
    simp only [hholds.toBytes_eq, hbytes]
  · rw [hbytes]
    refine hfrom.comesFrom.backs.imp_right fun ⟨hrefused, hunstored⟩ => ⟨?_, hunstored.2.symm⟩
    rwa [Disk.placeOf_eq_of_working hfrom.sameOutside.working_eq] at hrefused

/-! ## Files in a directory and further below -/

/-- The session after the name of the best profile was stored. -/
def afterAssigning (s : Session) (device : Device) (n : String) : Session :=
  let u := s.afterListing device
  (u.changeSettings (u.settings.assignProfile device (some n))).2

theorem assign_first {rank : Int32} {n : String} (hdevice : s.loadDevice choice = .ok device)
    (hfirst : (s.listedFor device).head? = some (rank, p)) (hrank : 0 < rank)
    (hname : p.fileName.bind Path.fileName? = some n)
    (hsaved : ((s.settings.assignProfile device (some n)).save
      (s.afterListing device).workspace.disk s.settingsFile).1.toOption = some ()) :
    s.chosen device automatic = (.ok p, s.afterListing device) ∧
      s.assign choice automatic =
        (.ok (.text (device.settingsKey ++ ": " ++ n ++ "\n")), s.afterAssigning device n) := by
  refine ⟨?_, ?_⟩
  · rw [chosen, if_pos rfl, bestFor_of_first hfirst hrank]
  · rw [assign_automatic hdevice, bestFor_of_first hfirst hrank]
    exact storeAssignment_eq hname (Prod.ext (eq_ok_of_toOption hsaved) rfl)

/-- Documents that are shorter than a profile are spared when the settings are kept elsewhere. -/
theorem spared_of_short
    (h : ∀ file ∈ choice.documents,
      s.workspace.disk.placeOf file ≠ s.workspace.disk.placeOf s.settingsFile ∧
        (s.workspace.disk.read file).toOption.all (·.length < minProfileSize) = true) :
    ∀ file ∈ choice.documents, Spared s file := by
  intro file hfile
  obtain ⟨hplace, hshort⟩ := h file hfile
  refine ⟨hplace, ?_⟩
  intro content hread haccepted
  rw [hread] at hshort
  exact absurd haccepted.minProfileSize_le (Nat.not_le.mpr (of_decide_eq_true hshort))

/-- The profile of the studio as one of version 4. -/
def renewed : Bytes := HeaderField.version.write toned 0x04000000

/-- The studio with this profile, whose file cannot be written. -/
def vault : Session :=
  { studio ⟨"/v/s"⟩ with
    workspace :=
      { catalog := { paths := ⟨[⟨"/v/p"⟩]⟩ }
        disk :=
          { (studio ⟨"/v/s"⟩).workspace.disk with
            entries :=
              Disk.putEntry ["v", "p", "a.icc"] (.file renewed 1)
                (studio ⟨"/v/s"⟩).workspace.disk.entries
            locked := [["v", "p", "a.icc"]] } } }

theorem loadDevice_vault : vault.loadDevice studioChoice = .ok studioDevice :=
  loadDevice_studioChoice (by decide) rfl rfl

/-- The profile as it is loaded there, with its ID repaired. -/
def vaultProfile : Profile :=
  (Profile.ofFile ⟨"/v/p/a.icc"⟩ renewed (by decide +kernel)).repairId

theorem fileName_vaultProfile : vaultProfile.fileName = some ⟨"/v/p/a.icc"⟩ := by decide +kernel

theorem head?_listedFor_vault :
    (vault.listedFor studioDevice).head? = some (1, vaultProfile) := by
  have hlisted : vault.listedFor studioDevice = [(1, vaultProfile)] := by decide +kernel
  rw [hlisted, List.head?_cons]

/-- The studio dumps the bytes of its file, and the vault those with the ID that its file lacks. -/
theorem assigned_profile_dumped_studio :
    (∃ output t w, (studio ⟨"/v/s"⟩).assign studioChoice automatic = (.ok output, t) ∧
      t.dump .profile studioChoice = (.ok (.bytes toned), w) ∧
      t.workspace.disk.read ⟨"/v/p/a.icc"⟩ = .ok toned) ∧
    ∃ output t w, vault.assign studioChoice automatic = (.ok output, t) ∧
      t.dump .profile studioChoice =
        (.ok (.bytes ((ProfileId.ofContent renewed).stamp renewed)), w) ∧
      t.workspace.disk.read ⟨"/v/p/a.icc"⟩ = .ok renewed := by
  have hown : Path.fileName? ⟨"/v/p/a.icc"⟩ = some "a.icc" := by decide +kernel
  refine ⟨?_, ?_⟩
  · have htimely : (studio ⟨"/v/s"⟩).workspace.disk.Timely :=
      Disk.timely_of_entries (by decide +kernel)
    have hspared : ∀ file ∈ studioChoice.documents, Spared (studio ⟨"/v/s"⟩) file :=
      spared_of_short (by decide +kernel)
    obtain ⟨hchosen, hassign⟩ := assign_first (loadDevice_studio ⟨"/v/s"⟩)
      (head?_listedFor_studio ⟨"/v/s"⟩) (by decide) fileName_studioProfile (by decide +kernel)
    have hdirs : ((studio ⟨"/v/s"⟩).afterAssigning studioDevice
        "a.icc").workspace.catalog.paths.dirs = [⟨"/v/p"⟩] := by
      decide +kernel
    have hback := leadsBack_of_only hdirs hown (by decide +kernel) (by decide +kernel)
    obtain ⟨⟨w, hdump⟩, content, hread, hcontent⟩ :=
      assigned_profile_dumped (started_studio _) htimely hassign (loadDevice_studio _) hchosen rfl
        hspared (by decide +kernel) ⟨rfl, rfl, .inl rfl⟩ hback
    obtain rfl := hcontent.resolve_right fun hrefused =>
      Profile.not_repairRefused_of_unlocked rfl _ hrefused.1
    exact ⟨_, _, w, hassign, hdump, hread⟩
  · have htimely : vault.workspace.disk.Timely := Disk.timely_of_entries (by decide +kernel)
    have hspared : ∀ file ∈ studioChoice.documents, Spared vault file :=
      spared_of_short (by decide +kernel)
    have hname : vaultProfile.fileName.bind Path.fileName? = some "a.icc" := by
      rw [fileName_vaultProfile, Option.bind_some, hown]
    obtain ⟨hchosen, hassign⟩ := assign_first loadDevice_vault head?_listedFor_vault (by decide)
      hname (by decide +kernel)
    have hdirs : (vault.afterAssigning studioDevice "a.icc").workspace.catalog.paths.dirs =
        [⟨"/v/p"⟩] := by
      decide +kernel
    have hback := leadsBack_of_only hdirs hown (by decide +kernel) (by decide +kernel)
    obtain ⟨⟨w, hdump⟩, -⟩ :=
      assigned_profile_dumped ⟨rfl, rfl⟩ htimely hassign loadDevice_vault hchosen
        fileName_vaultProfile hspared (by decide +kernel) ⟨rfl, rfl, .inl rfl⟩ hback
    have hheld : ((vault.afterAssigning studioDevice "a.icc").workspace.disk.read
        ⟨"/v/p/a.icc"⟩).toOption = some renewed := by
      decide +kernel
    have hbytes : vaultProfile.toBytes = (ProfileId.ofContent renewed).stamp renewed := by
      decide +kernel
    rw [hbytes] at hdump
    exact ⟨_, _, w, hassign, hdump, eq_ok_of_toOption hheld⟩

/-- The studio with the profile further below its directory. -/
def annex : Session where
  workspace :=
    { catalog := { paths := ⟨[⟨"/v/p"⟩]⟩ }
      disk :=
        { entries :=
            [(["v"], .directory), (["v", "p"], .directory), (["v", "p", "q"], .directory),
              (["v", "p", "q", "a.icc"], .file toned 1),
              (["v", "d"], .file (Text.utf8 (Device.toJson [studioDevice]).compact) 2),
              (["v", "r"], .file (Text.utf8 (RankMap.toJson ⟨[⟨"k", 1, 0, 0⟩]⟩ "m").compact) 3)]
          working := []
          clock := 3 } }
  settings := .empty
  settingsFile := ⟨"/v/s"⟩

/-- The profile as it is loaded there. -/
def annexProfile : Profile := { studioProfile with fileName := some ⟨"/v/p/q/a.icc"⟩ }

theorem loadDevice_annex : annex.loadDevice studioChoice = .ok studioDevice :=
  loadDevice_studioChoice (by decide) rfl rfl

/-- The best profile is assigned, and its name is not found again. -/
theorem nested_profile_lost :
    annex.chosen studioDevice automatic = (.ok annexProfile, annex.afterListing studioDevice) ∧
      annexProfile.fileName = some ⟨"/v/p/q/a.icc"⟩ ∧ annexProfile.toBytes = toned ∧
      ∃ output t, annex.assign studioChoice automatic = (.ok output, t) ∧
        ∃ failure w, t.dump .profile studioChoice = (.error failure, w) := by
  have hlisted : annex.listedFor studioDevice = [(1, annexProfile)] := by decide +kernel
  have hfirst : (annex.listedFor studioDevice).head? = some (1, annexProfile) := by
    rw [hlisted, List.head?_cons]
  have hname : annexProfile.fileName.bind Path.fileName? = some "a.icc" := by decide +kernel
  obtain ⟨hchosen, hassign⟩ :=
    assign_first loadDevice_annex hfirst (by decide) hname (by decide +kernel)
  refine ⟨hchosen, rfl, rfl, _, _, hassign, ?_⟩
  have hspared : ∀ file ∈ studioChoice.documents, Spared annex file :=
    spared_of_short (by decide +kernel)
  obtain ⟨own, content, data, hfrom⟩ := chosenFrom_chosen ⟨rfl, rfl⟩
    (Disk.timely_of_entries (by decide +kernel)) (fun _ => id) hchosen
  obtain ⟨n, hn, hstores⟩ :=
    stores_of_storeAssignment (assign_ok hassign loadDevice_annex hchosen) hfrom.fileName_eq
  obtain rfl : "a.icc" = n := by
    rw [hfrom.fileName_eq, Option.bind_some, hn, Option.some.injEq] at hname
    exact hname.symm
  rw [dump_after hfrom hstores ⟨rfl, rfl, .inl rfl⟩ loadDevice_annex hspared hn]
  have hlost : ((annex.afterAssigning studioDevice "a.icc").workspace.openProfile
      ⟨"a.icc"⟩ {}).1.toOption = none := by
    decide +kernel
  cases hopen : (annex.afterAssigning studioDevice "a.icc").workspace.openProfile ⟨"a.icc"⟩ {} with
  | mk result w =>
      rw [hopen] at hlost
      cases result with
      | ok loaded => cases hlost
      | error cause => exact ⟨_, _, rfl⟩

end Session

end IccProfile.CommandLine
