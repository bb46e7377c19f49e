import IccProfile.CommandLine.Session
import IccProfile.Proofs.Catalog.Complete
import IccProfile.Proofs.Device.Documents
import IccProfile.Proofs.Matching.Choice
import IccProfile.Proofs.Settings.RankMaps
import IccProfile.Proofs.Text.Utf8

/-!
# Assigning the best profile

Listing profiles and assigning the best one look for the same profiles, rank them alike,
and end on the same disk (`list_eq`, `bestFor_eq`). The profile that is assigned is the one
that is listed first, as long as its rank is above zero (`bestFor_of_first`); else nothing
is assigned (`bestFor_of_none`). Looking for profiles may store IDs in them, and changes no
other file (`afterListing_eq`).

Assigning needs more than listing: the settings have to be written to their file. With a
file that cannot be written profiles are listed and none is assigned
(`automatic_unwritable`).
-/

set_option autoImplicit false

namespace IccProfile.CommandLine.Session

open Matching (ranked rankProfile select?)

variable {s t : Session} {choice : DeviceChoice} {device : Device}

/-- A session whose catalog was not used yet. -/
structure Started (s : Session) : Prop where
  cache_eq : s.workspace.catalog.cache = []
  known_eq : s.workspace.catalog.known = none

/-- The known profiles with their ranks for a device, the best first. -/
def listedFor (s : Session) (device : Device) : List (Int32 × Profile) :=
  (s.rankedFor device).1.map fun entry => (entry.1, entry.2.profile)

/-- The session after the profiles of a device were looked for. -/
def afterListing (s : Session) (device : Device) : Session := (s.rankedFor device).2

/-- Looking for profiles leaves the policy and everything on the disk that is not a profile. -/
theorem afterListing_eq (s : Session) (device : Device) :
    (s.afterListing device).workspace.catalog.policy = s.workspace.catalog.policy ∧
      s.workspace.disk.SameOutsideProfiles (s.afterListing device).workspace.disk :=
  Workspace.profiles_eq s.workspace [classPattern device] {}

/-- The profiles are ranked by the policy with which the session started. -/
theorem fst_rankedFor (s : Session) (device : Device) :
    (s.rankedFor device).1 =
      ranked (fun l => rankProfile device l.profile s.workspace.catalog.policy)
        (s.workspace.profiles [classPattern device] {}).1 := by
  rw [← (afterListing_eq s device).1]
  rfl

/-- Listing prints the known profiles with their ranks. -/
theorem list_eq (hdevice : s.loadDevice choice = .ok device) :
    s.list choice =
      (.ok (.text (ofLines ((s.listedFor device).map fun entry => rankLine entry.1 entry.2))),
        s.afterListing device) := by
  simp only [list, hdevice, listedFor, List.map_map]
  rfl

/-- The listed profiles come with their ranks. -/
theorem fst_of_mem_listedFor {entry : Int32 × Profile} (h : entry ∈ s.listedFor device) :
    entry.1 = rankProfile device entry.2 s.workspace.catalog.policy := by
  obtain ⟨found, hfound, rfl⟩ := List.mem_map.mp h
  rw [← (afterListing_eq s device).1]
  exact Matching.fst_of_mem_ranked _ _ hfound

/-- They stand in the order of their ranks. -/
theorem ranked_listedFor (s : Session) (device : Device) :
    ranked (rankProfile device · s.workspace.catalog.policy) ((s.listedFor device).map (·.2)) =
      s.listedFor device := by
  apply Matching.ranked_of_pairwise
  · exact fun entry => fst_of_mem_listedFor
  · rw [listedFor, List.pairwise_map]
    exact Matching.pairwise_ranked _ _

/-- The best profile is chosen from the listed ones. -/
theorem bestFor_eq (s : Session) (device : Device) :
    s.bestFor device =
      match select? (rankProfile device · s.workspace.catalog.policy)
        ((s.listedFor device).map (·.2)) none with
      | some profile => (.ok profile, s.afterListing device)
      | none => (.error (.noneSuits device), s.afterListing device) := by
  rw [← (afterListing_eq s device).1, listedFor, List.map_map]
  rfl

/-- The profile that is listed first is the best one when its rank is above zero. -/
theorem bestFor_of_first {rank : Int32} {first : Profile}
    (hfirst : (s.listedFor device).head? = some (rank, first)) (hrank : 0 < rank) :
    s.bestFor device = (.ok first, s.afterListing device) := by
  rw [bestFor_eq, Matching.select?_eq_firstAbove, ranked_listedFor,
    Matching.firstAbove_of_first hfirst hrank]

/-- There is no best profile when none is listed with a rank above zero. -/
theorem bestFor_of_none
    (hnone : ∀ rank first, (s.listedFor device).head? = some (rank, first) → ¬ 0 < rank) :
    s.bestFor device = (.error (.noneSuits device), s.afterListing device) := by
  rw [bestFor_eq, Matching.select?_eq_firstAbove, ranked_listedFor,
    Matching.firstAbove_of_none hnone]

/-- The listed profiles are those of the listing of the catalog. -/
theorem mem_profiles_of_mem_listedFor {entry : Int32 × Profile} (h : entry ∈ s.listedFor device) :
    ∃ loaded ∈ (s.workspace.profiles [classPattern device] {}).1, loaded.profile = entry.2 := by
  obtain ⟨found, hfound, rfl⟩ := List.mem_map.mp h
  refine ⟨found.2, ?_, rfl⟩
  apply (Matching.perm_map_snd_ranked _ _).mem_iff.mp
  exact List.mem_map.mpr ⟨found, hfound, rfl⟩

/-- All listed profiles have file names when the session starts. -/
theorem Started.hasFileName (h : Started s) {entry : Int32 × Profile}
    (hentry : entry ∈ s.listedFor device) : entry.2.HasFileName := by
  obtain ⟨loaded, hloaded, heq⟩ := mem_profiles_of_mem_listedFor hentry
  rw [← heq]
  exact Workspace.profiles_named h.cache_eq h.known_eq _ _ loaded hloaded

/-- An assignment is stored under the file name of the profile, when the settings can be saved. -/
theorem storeAssignment_eq {profile : Profile} {name : String} {disk : Disk}
    (hname : profile.fileName.bind Path.fileName? = some name)
    (hsaved : (s.settings.assignProfile device (some name)).save s.workspace.disk s.settingsFile =
      (.ok (), disk)) :
    s.storeAssignment device profile =
      (.ok (.text (device.settingsKey ++ ": " ++ name ++ "\n")),
        { s with
          settings := s.settings.assignProfile device (some name)
          workspace := { s.workspace with disk } }) := by
  simp only [storeAssignment, hname, changeSettings, hsaved]
  rfl

/-- No assignment is made when they cannot. -/
theorem storeAssignment_of_error {profile : Profile} {name : String} {disk : Disk} {cause : Error}
    (hname : profile.fileName.bind Path.fileName? = some name)
    (hsaved : (s.settings.assignProfile device (some name)).save s.workspace.disk s.settingsFile =
      (.error cause, disk)) :
    (s.storeAssignment device profile).1 = .error (.other cause) := by
  simp only [storeAssignment, hname, changeSettings, hsaved]
  rfl

/-- Asking for the automatic choice assigns the best profile. -/
theorem assign_automatic (hdevice : s.loadDevice choice = .ok device) :
    s.assign choice automatic =
      match s.bestFor device with
      | (.ok profile, s) => s.storeAssignment device profile
      | (.error failure, s) => (.error failure, s) := by
  cases hbest : s.bestFor device with
  | mk result t =>
      cases result with
      | error failure => simp only [assign, hdevice, if_true, hbest]
      | ok profile => simp only [assign, hdevice, if_true, hbest]

/-- Sorting by rank is a stable rearrangement, and choosing from the profiles or from the sorted
ones gives the first of the sorted ones when its rank is above zero. So the automatic choice
assigns the profile that is listed first, when its rank is above zero and the settings can be
saved; when its rank is not, it fails and leaves the session as listing leaves it, with its
settings and with every file that is not a profile. -/
theorem choosing_agrees_with_sorting :
    (∀ (device : Device) (policy : RankPolicy) (profiles : List Profile)
        (default : Option Profile),
      let rankOf := fun profile => rankProfile device profile policy
      let sorted := ranked rankOf profiles
      Matching.IsRanking rankOf profiles sorted ∧
      ∀ items, items = profiles ∨ items = sorted.map (·.2) →
        select? rankOf items default = Matching.firstAbove sorted default) ∧
    (∀ (s t : Session) (choice : DeviceChoice) (output : Output), Started s →
      s.list choice = (.ok output, t) →
      ∃ device, s.loadDevice choice = .ok device ∧
        output =
          .text (ofLines ((s.listedFor device).map fun entry => rankLine entry.1 entry.2)) ∧
        (∀ entry ∈ s.listedFor device,
          entry.1 = rankProfile device entry.2 s.workspace.catalog.policy) ∧
        t.settings = s.settings ∧
        (∀ file content, s.workspace.disk.read file = .ok content → ¬ Profile.Accepted content →
          t.workspace.disk.read file = .ok content) ∧
        (∀ rank first, (s.listedFor device).head? = some (rank, first) → 0 < rank →
          ∃ name, first.fileName.bind Path.fileName? = some name ∧
            ∀ disk, (s.settings.assignProfile device (some name)).save t.workspace.disk
                s.settingsFile = (.ok (), disk) →
              ∃ u, s.assign choice automatic =
                  (.ok (.text (device.settingsKey ++ ": " ++ name ++ "\n")), u) ∧
                u.settings = s.settings.assignProfile device (some name) ∧
                u.workspace.disk = disk) ∧
        ((∀ rank first, (s.listedFor device).head? = some (rank, first) → ¬ 0 < rank) →
          s.assign choice automatic = (.error (.noneSuits device), t))) := by
  refine ⟨?_, ?_⟩
  -- the two algorithms
  · intro device policy profiles default rankOf sorted
    refine ⟨Matching.isRanking_ranked rankOf profiles, ?_⟩
    rintro items (rfl | rfl)
    · exact Matching.select?_eq_firstAbove rankOf items default
    · rw [Matching.select?_map_ranked, Matching.select?_eq_firstAbove]
  -- the two commands
  · intro s t choice output hstarted hlist
    obtain ⟨device, hdevice⟩ : ∃ device, s.loadDevice choice = .ok device := by
      cases hdevice : s.loadDevice choice with
      | error failure =>
          simp only [list, hdevice] at hlist
          cases hlist
      | ok device => exact ⟨device, rfl⟩
    rw [list_eq hdevice] at hlist
    obtain ⟨houtput, rfl⟩ := Prod.mk.inj hlist
    refine ⟨device, hdevice, (Except.ok.inj houtput).symm,
      fun entry => fst_of_mem_listedFor, rfl, ?_, ?_, ?_⟩
    · intro file content hread hother
      exact (afterListing_eq s device).2.read_eq hread hother
    · intro rank first hfirst hrank
      obtain ⟨path, name, hpath, hname⟩ :=
        hstarted.hasFileName (List.mem_of_mem_head? hfirst)
      have hbind : first.fileName.bind Path.fileName? = some name := by
        rw [hpath, Option.bind_some, hname]
      refine ⟨name, hbind, ?_⟩
      intro disk hsaved
      rw [assign_automatic hdevice, bestFor_of_first hfirst hrank]
      exact ⟨_, storeAssignment_eq hbind hsaved, rfl, rfl⟩
    · intro hnone
      rw [assign_automatic hdevice, bestFor_of_none hnone]

/-! ## Documents of devices -/

theorem readText_utf8 {file : Path} {text : String}
    (h : s.workspace.disk.read file = .ok (Text.utf8 text)) : s.readText file = .ok text := by
  simp only [readText, Disk.readText, h, bind, Except.bind, Text.ofUtf8?_utf8]
  rfl

/-- A device is loaded with its points when the chosen files hold the texts of both. -/
theorem loadDevice_of_texts (choice : DeviceChoice) {file : Path} {text points : String}
    {map : RankMap}
    (hread : s.workspace.disk.read choice.file = .ok (Text.utf8 text))
    (hdevice : Device.ofText text choice.className choice.position = .ok device)
    (hchoice : choice.rankMap = some file)
    (hpoints : s.workspace.disk.read file = .ok (Text.utf8 points))
    (hmap : RankMap.ofText points 0 = .ok map) :
    s.loadDevice choice = .ok { device with rankMap := some map } := by
  simp only [loadDevice, rankMapFor, hchoice, readText_utf8 hread, readText_utf8 hpoints, bind,
    Except.bind, hdevice, hmap, Except.mapError, pure, Except.pure]

/-! ## Listed profiles -/

/-- A display profile of version 2 with an ID of one byte, for devices with a value of the
property. -/
def screen (mark : UInt8) (value : String) : Bytes :=
  Workspace.singleTag .display mark Signature.deviceProperties
    (Dictionary.encode ⟨[("k", value)]⟩)

/-- The profile of the device, without an ID. -/
def toned : Bytes := screen 0 "x"

/-- A device with one property, and the points for it. -/
def studioDevice : Device where
  className := "m"
  id := "0"
  properties := ⟨[("k", "x")]⟩
  rankMap := some ⟨[⟨"k", 1, 0, 0⟩]⟩

/-- A session on a disk with the profile, the device and its points. -/
def studio (settingsFile : Path) : Session where
  workspace :=
    { catalog := { paths := ⟨[⟨"/v/p"⟩]⟩ }
      disk :=
        { entries :=
            [(["v"], .directory), (["v", "p"], .directory), (["v", "p", "a.icc"], .file toned 1),
              (["v", "d"], .file (Text.utf8 (Device.toJson [studioDevice]).compact) 2),
              (["v", "r"], .file (Text.utf8 (RankMap.toJson ⟨[⟨"k", 1, 0, 0⟩]⟩ "m").compact) 3)]
          working := []
          clock := 3 } }
  settings := .empty
  settingsFile

/-- The choice of the device. -/
def studioChoice : DeviceChoice where
  file := ⟨"/v/d"⟩
  className := none
  position := 0
  rankMap := some ⟨"/v/r"⟩

theorem started_studio (file : Path) : Started (studio file) := ⟨rfl, rfl⟩

theorem eq_ok_of_toOption {ε α : Type} {result : Except ε α} {a : α}
    (h : result.toOption = some a) : result = .ok a := by
  cases result with
  | error e => cases h
  | ok b => exact congrArg Except.ok (Option.some.inj h)

/-- The device is loaded wherever its file and that of its points have the texts of both. -/
theorem loadDevice_studioChoice {time later : Nat}
    (hplaces : (s.workspace.disk.locate ⟨"/v/d"⟩).toOption = some ["v", "d"] ∧
      (s.workspace.disk.locate ⟨"/v/r"⟩).toOption = some ["v", "r"])
    (hdevices : s.workspace.disk.entry? ["v", "d"] =
      some (.file (Text.utf8 (Device.toJson [studioDevice]).compact) time))
    (hmaps : s.workspace.disk.entry? ["v", "r"] =
      some (.file (Text.utf8 (RankMap.toJson ⟨[⟨"k", 1, 0, 0⟩]⟩ "m").compact) later)) :
    s.loadDevice studioChoice = .ok studioDevice := by
  have hdocument := Disk.read_ok_iff.mpr ⟨_, time, eq_ok_of_toOption hplaces.1, hdevices⟩
  have hpoints := Disk.read_ok_iff.mpr ⟨_, later, eq_ok_of_toOption hplaces.2, hmaps⟩
  have hjson := Json.ofText?_compact (Device.plain_toJson [studioDevice])
  obtain ⟨hread, -, hfirst⟩ := Device.readFrom_of_ofText? hjson
  have hdevice : Device.ofText (Device.toJson [studioDevice]).compact none 0 =
      .ok { studioDevice with rankMap := none } := by
    rw [hfirst studioDevice [] rfl]
    exact hread 0 Nat.zero_lt_one
  have hdistinct : RankMap.Distinct ⟨[⟨"k", 1, 0, 0⟩]⟩ := List.nodup_singleton "k"
  have hloaded := loadDevice_of_texts studioChoice hdocument hdevice rfl hpoints
    (RankMap.ofText_toJson hdistinct "m").1
  exact hloaded

theorem loadDevice_studio (file : Path) :
    (studio file).loadDevice studioChoice = .ok studioDevice := by
  have hplaces : ((studio ⟨""⟩).workspace.disk.locate ⟨"/v/d"⟩).toOption = some ["v", "d"] ∧
      ((studio ⟨""⟩).workspace.disk.locate ⟨"/v/r"⟩).toOption = some ["v", "r"] := by
    decide
  exact loadDevice_studioChoice hplaces rfl rfl

/-- The profile as it is loaded. -/
def studioProfile : Profile := Profile.ofFile ⟨"/v/p/a.icc"⟩ toned (by decide +kernel)

theorem listedFor_studio (file : Path) :
    (studio file).listedFor studioDevice = [(1, studioProfile)] := by
  have hlist : (studio ⟨""⟩).listedFor studioDevice = [(1, studioProfile)] := by decide +kernel
  exact hlist

theorem list_studio (file : Path) :
    (studio file).list studioChoice =
      (.ok (.text "1:  (/v/p/a.icc)\n"), (studio file).afterListing studioDevice) := by
  have hline : ofLines [rankLine 1 studioProfile] = "1:  (/v/p/a.icc)\n" := by decide +kernel
  rw [list_eq (loadDevice_studio file), listedFor_studio, List.map_singleton, hline]

theorem fileName_studioProfile :
    studioProfile.fileName.bind Path.fileName? = some "a.icc" := by decide

theorem head?_listedFor_studio (file : Path) :
    ((studio file).listedFor studioDevice).head? = some (1, studioProfile) := by
  rw [listedFor_studio, List.head?_cons]

/-- The studio with two more profiles: one of another device, whose file comes first, and one that
is as good as the first one. -/
def gallery : Session :=
  { studio ⟨"/v/s"⟩ with
    workspace :=
      { catalog := { paths := ⟨[⟨"/v/p"⟩, ⟨"/v/q"⟩, ⟨"/v/t"⟩]⟩ }
        disk :=
          { (studio ⟨"/v/s"⟩).workspace.disk with
            entries :=
              (studio ⟨"/v/s"⟩).workspace.disk.entries ++
                [(["v", "q"], .directory), (["v", "q", "1.icc"], .file (screen 1 "y") 1),
                  (["v", "t"], .directory), (["v", "t", "b.icc"], .file (screen 2 "x") 1)] } } }

theorem started_gallery : Started gallery := ⟨rfl, rfl⟩

theorem loadDevice_gallery : gallery.loadDevice studioChoice = .ok studioDevice :=
  loadDevice_studioChoice (by decide) rfl rfl

theorem files_gallery :
    gallery.workspace.files.1 = [⟨"/v/q/1.icc"⟩, ⟨"/v/p/a.icc"⟩, ⟨"/v/t/b.icc"⟩] := by
  rw [Workspace.files_of_unknown rfl, Catalog.findFiles_eq_insertionSort]
  decide +kernel

/-- The listed profiles of the gallery, with their ranks. -/
def onShow : List (Int32 × Profile) :=
  [(1, studioProfile),
    (1, Profile.ofFile ⟨"/v/t/b.icc"⟩ (screen 2 "x") (by decide +kernel)),
    (0, Profile.ofFile ⟨"/v/q/1.icc"⟩ (screen 1 "y") (by decide +kernel))]

theorem listedFor_gallery : gallery.listedFor studioDevice = onShow := by
  rw [listedFor, fst_rankedFor, Matching.ranked_eq_insertionSort, Workspace.fst_profiles,
    Workspace.byDescription_eq_insertionSort, Workspace.selected, Workspace.opened, files_gallery]
  decide +kernel

theorem list_gallery :
    gallery.list studioChoice =
      (.ok (.text "1:  (/v/p/a.icc)\n1:  (/v/t/b.icc)\n0:  (/v/q/1.icc)\n"),
        gallery.afterListing studioDevice) := by
  have hlines : ofLines (onShow.map fun entry => rankLine entry.1 entry.2) =
      "1:  (/v/p/a.icc)\n1:  (/v/t/b.icc)\n0:  (/v/q/1.icc)\n" := by
    decide +kernel
  rw [list_eq loadDevice_gallery, listedFor_gallery, hlines]

theorem choosing_agrees_with_sorting_gallery :
    Started gallery ∧
      (∃ t, gallery.list studioChoice =
        (.ok (.text "1:  (/v/p/a.icc)\n1:  (/v/t/b.icc)\n0:  (/v/q/1.icc)\n"), t)) ∧
      ∃ u, gallery.assign studioChoice automatic =
        (.ok (.text "org/freedesktop/openicc/device/m/0: a.icc\n"), u) := by
  refine ⟨started_gallery, ⟨_, list_gallery⟩, ?_⟩
  obtain ⟨-, hcommands⟩ := choosing_agrees_with_sorting
  obtain ⟨device, hdevice, -, -, -, -, hassign, -⟩ :=
    hcommands _ _ _ _ started_gallery list_gallery
  obtain rfl := Except.ok.inj (hdevice.symm.trans loadDevice_gallery)
  have hfirst : (gallery.listedFor studioDevice).head? = some (1, studioProfile) := by
    rw [listedFor_gallery]
    rfl
  obtain ⟨name, hname, hsave⟩ := hassign _ _ hfirst (by decide)
  obtain rfl := Option.some.inj (hname.symm.trans fileName_studioProfile)
  have hsaved : ((Settings.empty.assignProfile studioDevice (some "a.icc")).save
      (gallery.workspace.files.2.openAll {} gallery.workspace.files.1).2.disk ⟨"/v/s"⟩).1.toOption =
        some () := by
    rw [files_gallery]
    decide +kernel
  obtain ⟨u, hu, -, -⟩ := hsave _ (Prod.ext (eq_ok_of_toOption hsaved) rfl)
  have hline : studioDevice.settingsKey ++ ": " ++ "a.icc" ++ "\n" =
      "org/freedesktop/openicc/device/m/0: a.icc\n" := by
    decide +kernel
  rw [hline] at hu
  exact ⟨u, hu⟩

/-! ## Settings that cannot be written -/

/-- Profiles are listed, the first with a rank above zero, but none can be assigned with a settings
file that cannot be written. -/
theorem automatic_unwritable :
    Started (studio ⟨"/v/s/"⟩) ∧
      (∃ t, (studio ⟨"/v/s/"⟩).list studioChoice = (.ok (.text "1:  (/v/p/a.icc)\n"), t)) ∧
      ∃ cause, ((studio ⟨"/v/s/"⟩).assign studioChoice automatic).1 = .error (.other cause) := by
  refine ⟨started_studio _, ⟨_, list_studio _⟩, ?_⟩
  -- the path ends in a slash and there is no such directory
  have hrefused : ((Settings.empty.assignProfile studioDevice (some "a.icc")).save
      ((studio ⟨"/v/s/"⟩).afterListing studioDevice).workspace.disk ⟨"/v/s/"⟩).1.toOption =
        none := by
    decide +kernel
  rw [assign_automatic (loadDevice_studio _),
    bestFor_of_first (head?_listedFor_studio _) (by decide)]
  cases hsaved : (Settings.empty.assignProfile studioDevice (some "a.icc")).save
      ((studio ⟨"/v/s/"⟩).afterListing studioDevice).workspace.disk ⟨"/v/s/"⟩ with
  | mk result disk =>
      rw [hsaved] at hrefused
      cases result with
      | ok done => cases hrefused
      | error cause => exact ⟨cause, storeAssignment_of_error fileName_studioProfile hsaved⟩

end IccProfile.CommandLine.Session
