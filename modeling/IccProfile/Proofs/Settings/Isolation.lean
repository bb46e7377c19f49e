import IccProfile.Proofs.Settings.RankMaps

/-!
# Devices with settings of their own

The settings of a device stand under a path of its class and its name. Two devices whose paths
differ do not touch each other's settings. The paths of two devices of different class or name
are equal when the class of one goes on, behind a slash, where the other ends, and the name of
the other makes up for it (`settingsKey_eq_iff`); then, and only then, they share their settings
(`isolated_iff`). Devices whose classes have no slash share none (`isolated_of_classes`).
-/

set_option autoImplicit false

namespace IccProfile

namespace Device

variable {a b : Device}

/-- The class of the first device goes on, behind a slash, where that of the second ends, and the
name of the second starts with what is more. -/
def Overlaps (a b : Device) : Prop :=
  ∃ middle, a.className = b.className ++ "/" ++ middle ∧ b.id = middle ++ "/" ++ a.id

/-- The path behind the part that is the same for all devices. -/
theorem settingsKey_eq_iff_append :
    a.settingsKey = b.settingsKey ↔
      a.className.toList ++ '/' :: a.id.toList = b.className.toList ++ '/' :: b.id.toList := by
  have hstart : ∀ start : String,
      start ++ a.className ++ "/" ++ a.id = start ++ b.className ++ "/" ++ b.id ↔
        a.className.toList ++ '/' :: a.id.toList = b.className.toList ++ '/' :: b.id.toList := by
    intro start
    rw [← String.toList_inj]
    simp [String.toList_append]
  exact hstart _

theorem overlaps_iff :
    Overlaps a b ↔
      ∃ middle, a.className.toList = b.className.toList ++ '/' :: middle ∧
        b.id.toList = middle ++ '/' :: a.id.toList := by
  constructor
  · rintro ⟨middle, hclass, hid⟩
    refine ⟨middle.toList, ?_, ?_⟩
    · simp [hclass, String.toList_append]
    · simp [hid, String.toList_append]
  · rintro ⟨middle, hclass, hid⟩
    refine ⟨String.ofList middle, ?_, ?_⟩
    · rw [← String.toList_inj, hclass]
      simp [String.toList_append]
    · rw [← String.toList_inj, hid]
      simp [String.toList_append]

/-- When the paths of two devices are equal. -/
theorem settingsKey_eq_iff :
    a.settingsKey = b.settingsKey ↔
      (a.className = b.className ∧ a.id = b.id) ∨ Overlaps a b ∨ Overlaps b a := by
  rw [settingsKey_eq_iff_append, overlaps_iff, overlaps_iff]
  constructor
  · intro heq
    rcases List.append_eq_append_iff.mp heq with ⟨more, hclass, hid⟩ | ⟨more, hclass, hid⟩
    · cases more with
      | nil =>
          rw [List.append_nil] at hclass
          exact .inl ⟨(String.toList_inj.mp hclass).symm,
            String.toList_inj.mp (List.cons.inj hid).2⟩
      | cons c middle =>
          rw [List.cons_append] at hid
          obtain ⟨rfl, hrest⟩ := List.cons.inj hid
          exact .inr (.inr ⟨middle, hclass, hrest⟩)
    · cases more with
      | nil =>
          rw [List.append_nil] at hclass
          exact .inl ⟨String.toList_inj.mp hclass,
            (String.toList_inj.mp (List.cons.inj hid).2).symm⟩
      | cons c middle =>
          rw [List.cons_append] at hid
          obtain ⟨rfl, hrest⟩ := List.cons.inj hid
          exact .inr (.inl ⟨middle, hclass, hrest⟩)
  · rintro (⟨hclass, hid⟩ | ⟨middle, hclass, hid⟩ | ⟨middle, hclass, hid⟩)
    · rw [hclass, hid]
    · rw [hclass, hid, List.append_assoc, List.cons_append]
    · rw [hclass, hid, List.append_assoc, List.cons_append]

end Device

namespace Settings

variable {a b : Device}

/-! ## The answers about a device -/

/-- The answers about a device hang on what stands under its two paths. -/
theorem answers_congr {s t : Settings} {device : Device}
    (hprofile : s.get? (profilePath device) = t.get? (profilePath device))
    (hmap : s.get? (rankMapPath device) = t.get? (rankMapPath device)) :
    s.assignedProfile? device = t.assignedProfile? device ∧
      s.storedRankMap device = t.storedRankMap device := by
  rw [assignedProfile?, assignedProfile?, storedRankMap, storedRankMap, hprofile, hmap]
  exact ⟨rfl, rfl⟩

/-! ## Two devices -/

/-- What is changed for the first device leaves the second one. -/
structure Isolated (a b : Device) : Prop where
  assign : ∀ (s : Settings) (name? : Option String),
    (s.assignProfile a name?).assignedProfile? b = s.assignedProfile? b ∧
      (s.assignProfile a name?).storedRankMap b = s.storedRankMap b
  store : ∀ (s : Settings) (m : RankMap),
    (s.storeRankMap a m).assignedProfile? b = s.assignedProfile? b ∧
      (s.storeRankMap a m).storedRankMap b = s.storedRankMap b

theorem devicePath_ne {key : String} (h : a.settingsKey ≠ b.settingsKey) :
    devicePath b key ≠ devicePath a key := by
  intro heq
  rw [devicePath, devicePath, String.append_left_inj, String.append_left_inj] at heq
  exact h heq.symm

theorem isolated_of_settingsKey_ne (h : a.settingsKey ≠ b.settingsKey) : Isolated a b := by
  refine ⟨?_, ?_⟩
  · intro s name?
    exact answers_congr (get?_set_of_ne (devicePath_ne h) s name?)
      (get?_set_of_ne (rankMapPath_ne_profilePath b a) s name?)
  · intro s m
    exact answers_congr (get?_set_of_ne (rankMapPath_ne_profilePath a b).symm s _)
      (get?_set_of_ne (devicePath_ne h) s _)

/-- Devices of one path share their settings. -/
theorem not_isolated_of_settingsKey_eq (h : a.settingsKey = b.settingsKey) : ¬ Isolated a b := by
  intro hisolated
  have hassigned : (empty.assignProfile a (some "a.icc")).assignedProfile? b = some "a.icc" := by
    have hpath : profilePath b = profilePath a := by
      rw [profilePath, profilePath, devicePath, devicePath, h]
    rw [assignedProfile?, hpath]
    exact assignedProfile?_assignProfile empty a (by decide)
  have hnone := (hisolated.assign empty (some "a.icc")).1
  have hempty : empty.assignedProfile? b = none := rfl
  rw [hassigned, hempty] at hnone
  exact absurd hnone (by simp)

/-- Devices whose classes have no slash share no settings. -/
theorem isolated_of_classes (ha : '/' ∉ a.className.toList) (hb : '/' ∉ b.className.toList)
    (h : a.className ≠ b.className ∨ a.id ≠ b.id) : Isolated a b := by
  apply isolated_of_settingsKey_ne
  intro heq
  rcases Device.settingsKey_eq_iff.mp heq with ⟨hclass, hid⟩ | hoverlap | hoverlap
  · exact h.elim (fun hne => hne hclass) fun hne => hne hid
  · obtain ⟨middle, hclass, -⟩ := Device.overlaps_iff.mp hoverlap
    exact ha (by simp [hclass])
  · obtain ⟨middle, hclass, -⟩ := Device.overlaps_iff.mp hoverlap
    exact hb (by simp [hclass])

/-- Two devices of different class or name have settings of their own, unless the class of one
goes on where that of the other ends and the name of the other makes up for it. -/
theorem isolated_iff (h : a.className ≠ b.className ∨ a.id ≠ b.id) :
    Isolated a b ↔ ¬ Device.Overlaps a b ∧ ¬ Device.Overlaps b a := by
  constructor
  · intro hisolated
    refine ⟨fun hoverlap => ?_, fun hoverlap => ?_⟩
    · exact not_isolated_of_settingsKey_eq (Device.settingsKey_eq_iff.mpr (.inr (.inl hoverlap)))
        hisolated
    · exact not_isolated_of_settingsKey_eq (Device.settingsKey_eq_iff.mpr (.inr (.inr hoverlap)))
        hisolated
  · rintro ⟨hab, hba⟩
    apply isolated_of_settingsKey_ne
    intro heq
    rcases Device.settingsKey_eq_iff.mp heq with ⟨hclass, hid⟩ | hoverlap | hoverlap
    · exact h.elim (fun hne => hne hclass) fun hne => hne hid
    · exact hab hoverlap
    · exact hba hoverlap

/-- A device of a class with a slash, and one of a class without it, both with a name. -/
def shelfDevice : Device := ⟨"a/b", "c", ⟨[("device_name", "c")]⟩, none⟩

def deskDevice : Device := ⟨"a", "b/d", ⟨[("device_name", "b/d")]⟩, none⟩

theorem isolated_iff_shelf :
    (shelfDevice.className ≠ deskDevice.className ∨ shelfDevice.id ≠ deskDevice.id) ∧
      (Isolated shelfDevice deskDevice ↔ ¬ Device.Overlaps shelfDevice deskDevice ∧
        ¬ Device.Overlaps deskDevice shelfDevice) ∧
      Isolated shelfDevice deskDevice := by
  have hdiffer : shelfDevice.className ≠ deskDevice.className ∨
      shelfDevice.id ≠ deskDevice.id := by decide
  have hkeys : shelfDevice.settingsKey ≠ deskDevice.settingsKey := by decide +kernel
  have hoverlaps : ¬ Device.Overlaps shelfDevice deskDevice ∧
      ¬ Device.Overlaps deskDevice shelfDevice :=
    ⟨fun h => hkeys (Device.settingsKey_eq_iff.mpr (.inr (.inl h))),
      fun h => hkeys (Device.settingsKey_eq_iff.mpr (.inr (.inr h)))⟩
  exact ⟨hdiffer, isolated_iff hdiffer, (isolated_iff hdiffer).mpr hoverlaps⟩

/-- The document of a device of the class `a/b` with the name `c`. -/
def shelfText : String :=
  "\x7b\"org\":\x7b\"freedesktop\":\x7b\"openicc\":\x7b\"device\":\x7b\"a/b\":[" ++
    "\x7b\"device_name\":\"c\"\x7d]\x7d\x7d\x7d\x7d\x7d"

/-- The document of a device of the class `a` with the name `b/c`. -/
def deskText : String :=
  "\x7b\"org\":\x7b\"freedesktop\":\x7b\"openicc\":\x7b\"device\":\x7b\"a\":[" ++
    "\x7b\"device_name\":\"b/c\"\x7d]\x7d\x7d\x7d\x7d\x7d"

/-- Two devices of documents that differ in class and name: what is assigned to one is assigned
to the other. -/
theorem assignment_shared :
    ∃ first second : Device,
      Device.ofText shelfText none 0 = .ok first ∧ Device.ofText deskText none 0 = .ok second ∧
      first.className ≠ second.className ∧ first.id ≠ second.id ∧
      empty.assignedProfile? second = none ∧
      (empty.assignProfile first (some "x.icc")).assignedProfile? second = some "x.icc" := by
  refine ⟨shelfDevice, ⟨"a", "b/c", ⟨[("device_name", "b/c")]⟩, none⟩, ?_⟩
  decide +kernel

end Settings

end IccProfile
