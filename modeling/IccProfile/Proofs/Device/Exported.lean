import IccProfile.Proofs.Device.Documents
import IccProfile.Proofs.Json.Members
import IccProfile.Proofs.Settings.Isolation

/-!
# Exported devices

A device that was read has no property twice (`exists_members_of_ofText`), so its document
holds its properties as they are. A name is written only where it is a property. A device
without one is named by its position, and stands first in the document of its own. So a
device that is read back has the class and the properties that it had, and its name as well
when this is a property or the device was the first of its class (`device_exported`). In all
other cases the name is lost, and with it the place in the settings (`name_not_exported`).
-/

set_option autoImplicit false

namespace IccProfile

namespace Properties

theorem keys_ofMembers_sublist (members : List (String × Json)) :
    ((ofMembers members).entries.map (·.1)).Sublist (members.map (·.1)) := by
  rw [ofMembers, List.map_filterMap]
  induction members with
  | nil => exact .slnil
  | cons first rest ih =>
      rw [List.filterMap_cons, List.map_cons]
      cases valueText? first.2 with
      | none => exact ih.cons first.1
      | some text => exact ih.cons_cons first.1

/-- Properties of members of different names are all kept. -/
theorem distinct_ofMembers {members : List (String × Json)} (h : (members.map (·.1)).Nodup) :
    (ofMembers members).distinct = ofMembers members := by
  have hkeys := (keys_ofMembers_sublist members).nodup h
  exact congrArg Properties.mk (firstOfEach_eq_self Prod.fst _ (List.pairwise_map.mp hkeys))

end Properties

namespace Device

variable {text : String} {class? : Option String} {position : Nat} {d : Device}

/-- Numbers are told apart by their digits. -/
theorem toString_inj {m n : Nat} (h : toString m = toString n) : m = n := by
  have hdigits := congrArg (fun s => Nat.ofDigitChars 10 s.toList 0) h
  simpa using hdigits

/-- Devices of one class have one place in the settings when they have one name. -/
theorem settingsKey_eq_iff_of_className {a b : Device} (h : a.className = b.className) :
    a.settingsKey = b.settingsKey ↔ a.id = b.id := by
  rw [settingsKey_eq_iff_append, h, List.append_cancel_left_eq, List.cons.injEq, String.toList_inj]
  exact and_iff_right rfl

/-! ## What was read -/

theorem wellNamed_of_findClass {classes : List (String × Json)} {name : String} {list : Json}
    (hclasses : ∀ m ∈ classes, Json.WellNamed m.2)
    (h : findClass classes class? = .ok (name, list)) : list.WellNamed := by
  unfold findClass at h
  split at h
  · split at h
    · next hfound =>
        cases h
        rw [lookup_eq] at hfound
        obtain ⟨m, hm, rfl⟩ := Option.map_eq_some_iff.mp hfound
        exact hclasses m (List.mem_of_find?_eq_some hm)
    · cases h
  · split at h
    · cases h
      exact hclasses _ List.mem_cons_self
    · cases h

/-- A device that was read has the properties of members of different names, and is named by one
of them or by its position. -/
theorem exists_members_of_ofText (h : ofText text class? position = .ok d) :
    ∃ members, (members.map (·.1)).Nodup ∧ d.properties = Properties.ofMembers members ∧
      d.id = (d.properties.get? "device_name").getD (toString position) := by
  unfold ofText at h
  split at h
  · next root hroot =>
      have hnamed := Json.wellNamed_ofText? hroot
      simp only [ofJson, bind, Except.bind] at h
      split at h
      · next classes hclasses =>
          obtain ⟨device, hdevice, hmembers⟩ := Option.bind_eq_some_iff.mp hclasses
          have hvalues := ((hnamed.getPath? hdevice).of_mem_members hmembers).2
          cases hfound : findClass classes class? with
          | error error =>
              rw [hfound] at h
              cases h
          | ok found =>
              rw [hfound] at h
              have hlist := wellNamed_of_findClass hvalues hfound
              simp only at h
              split at h
              · next members hat =>
                  obtain ⟨value, hvalue, hmembers⟩ := Option.bind_eq_some_iff.mp hat
                  obtain ⟨items, hitems, hposition⟩ := Option.bind_eq_some_iff.mp hvalue
                  have hitem := hlist.of_mem_items hitems value (List.mem_of_getElem? hposition)
                  cases h
                  exact ⟨members, (hitem.of_mem_members hmembers).1, rfl, rfl⟩
              · cases h
      · cases h
  · cases h

/-! ## What is read back -/

theorem id_readBack_of_unnamed (h : d.properties.contains "device_name" = false)
    (position : Nat) : (readBack d position).id = toString position := by
  rw [readBack, Option.isNone_iff_eq_none.mp (Option.isSome_eq_false_iff.mp h), Option.getD_none]

/-- The first position is a name that is kept, and so is every name that is a property. -/
theorem id_readBack_eq_iff
    (hid : d.id = (d.properties.get? "device_name").getD (toString position)) :
    (readBack d 0).id = d.id ↔ d.properties.contains "device_name" = true ∨ position = 0 := by
  rw [hid, readBack, Properties.contains]
  cases d.properties.get? "device_name" with
  | some name => exact iff_of_true rfl (.inl rfl)
  | none =>
      refine ⟨fun heq => .inr (toString_inj heq.symm), ?_⟩
      rintro (hnone | rfl)
      · cases hnone
      · rfl

/-- A device that was read from a text is read from its own document with its class and its
properties. It has its name and its place in the settings when the name is a property or the
device was the first of its class; else it is named by the first position. -/
theorem device_exported (h : ofText text class? position = .ok d) :
    ∀ exported ∈ [(toJson [d]).compact, (toJson [d]).pretty],
      ∃ other, ofText exported (some d.className) 0 = .ok other ∧
        other.className = d.className ∧ other.properties = d.properties ∧
        (d.properties.contains "device_name" = false → other.id = "0") ∧
        (other.id = d.id ↔ d.properties.contains "device_name" = true ∨ position = 0) ∧
        (other.settingsKey = d.settingsKey ↔
          d.properties.contains "device_name" = true ∨ position = 0) := by
  intro exported hexported
  have hread : Json.ofText? exported = some (toJson [d]) := by
    rcases List.mem_pair.mp hexported with rfl | rfl
    · exact Json.ofText?_compact (plain_toJson [d])
    · exact Json.ofText?_pretty (plain_toJson [d])
  obtain ⟨members, hnames, hproperties, hid⟩ := exists_members_of_ofText h
  have hname := id_readBack_eq_iff hid
  refine ⟨readBack d 0, (readFrom_of_ofText? hread).device 0 Nat.zero_lt_one, rfl, ?_,
    fun hunnamed => id_readBack_of_unnamed hunnamed 0, hname, ?_⟩
  · rw [readBack, hproperties, Properties.distinct_ofMembers hnames]
  · rw [← hname]
    exact settingsKey_eq_iff_of_className rfl

/-- Two monitors, the second one with a name and with values of several kinds. -/
def twoMonitors : String :=
  (Json.wrap path (.object [("monitor", .array [.object [("model", .string "X1")],
    .object [("device_name", .string "left"), ("area", .array [.int 60, .bool true]),
      ("edid", .object [])]])])).compact

/-- The second of them, without the value that has no text. -/
def leftMonitor : Device :=
  ⟨"monitor", "left", ⟨[("device_name", "left"), ("area", "60,true")]⟩, none⟩

theorem device_exported_leftMonitor :
    ofText twoMonitors none 1 = .ok leftMonitor ∧
      ∃ other, ofText (toJson [leftMonitor]).pretty (some "monitor") 0 = .ok other ∧
        other.properties = leftMonitor.properties ∧
        other.settingsKey = leftMonitor.settingsKey := by
  have hread : ofText twoMonitors none 1 = .ok leftMonitor := by decide +kernel
  obtain ⟨other, hother, -, hproperties, -, -, hkey⟩ :=
    device_exported hread _ (List.mem_pair.mpr (.inr rfl))
  exact ⟨hread, other, hother, hproperties, hkey.mpr (.inl rfl)⟩

/-- Two monitors that are named by their positions. -/
def unnamedMonitors : String :=
  (Json.wrap path (.object [("monitor", .array [.object [], .object []])])).compact

/-- What is read for either of them. -/
def unnamedMonitor (position : Nat) : Device := ⟨"monitor", toString position, ⟨[]⟩, none⟩

/-- The name of the second monitor and its place in the settings are lost. -/
theorem name_not_exported :
    ofText unnamedMonitors none 1 = .ok (unnamedMonitor 1) ∧
      ofText (toJson [unnamedMonitor 1]).compact (some "monitor") 0 = .ok (unnamedMonitor 0) ∧
      (unnamedMonitor 0).id ≠ (unnamedMonitor 1).id ∧
      (unnamedMonitor 0).settingsKey ≠ (unnamedMonitor 1).settingsKey := by
  have hname : (unnamedMonitor 0).id ≠ (unnamedMonitor 1).id := by decide
  have hclass : (unnamedMonitor 0).className = (unnamedMonitor 1).className := rfl
  refine ⟨by decide +kernel, by decide +kernel, hname, ?_⟩
  exact fun hkey => hname ((settingsKey_eq_iff_of_className hclass).mp hkey)

end Device

end IccProfile
