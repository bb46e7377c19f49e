import IccProfile.Device.Basic
import IccProfile.Proofs.Json.RoundTrip
import IccProfile.Proofs.Sorting

/-!
# Documents of devices

A document lists the properties of devices under their classes, the classes in the order in
which they first occur (`head_classes`) and the devices of a class in their order
(`lookup_classes`). From its text a device is read by its class and its position among the
devices of that class; of properties of one key the first is left (`devices_read_back`).
-/

set_option autoImplicit false

namespace IccProfile

/-! ## Properties -/

namespace Properties

/-- Properties without those whose key was there before. -/
def distinct (p : Properties) : Properties := ⟨firstOfEach Prod.fst p.entries⟩

theorem toJson_eq (p : Properties) :
    p.toJson = .object (p.distinct.entries.map fun e => (e.1, .string e.2)) := rfl

theorem nodup_distinct (p : Properties) : (p.distinct.entries.map (·.1)).Nodup :=
  List.pairwise_map.mpr (pairwise_firstOfEach Prod.fst p.entries)

/-- The first value of a key is left. -/
theorem get?_distinct (p : Properties) (key : String) : p.distinct.get? key = p.get? key := by
  rw [get?, distinct, find?_firstOfEach, get?]

theorem plain_toJson (p : Properties) (depth : Nat) : Json.Plain (depth + 1) p.toJson := by
  rw [toJson_eq]
  refine .object ?_ ?_
  · intro m hm
    obtain ⟨e, -, rfl⟩ := List.mem_map.mp hm
    exact .string e.2
  · rw [List.map_map]
    exact p.nodup_distinct

/-- Properties are read back from the members that were written. -/
theorem ofMembers_strings (entries : List (String × String)) :
    ofMembers (entries.map fun e => (e.1, .string e.2)) = ⟨entries⟩ := by
  rw [ofMembers, List.filterMap_map]
  exact congrArg Properties.mk (List.filterMap_some)

end Properties

namespace Device

variable (devices : List Device)

/-! ## Classes -/

/-- The classes of a document with the properties of their devices. -/
def classes : List (String × List Json) :=
  devices.foldl (fun classes d => addToClass d classes) []

/-- The devices of a class. -/
def ofClass (name : String) : List Device := devices.filter (·.className = name)

theorem addToClass_eq (d : Device) (classes : List (String × List Json)) :
    addToClass d classes =
      putItem Prod.fst
        (d.className, (classes.lookup d.className).getD [] ++ [d.properties.toJson]) classes := by
  induction classes with
  | nil => rfl
  | cons first rest ih =>
      obtain ⟨name, list⟩ := first
      rw [addToClass, putItem]
      by_cases hname : name = d.className
      · subst hname
        rw [if_pos rfl, if_pos rfl, List.lookup_cons_self, Option.getD_some]
      · rw [if_neg hname, if_neg hname, ih, List.lookup_cons,
          beq_eq_false_iff_ne.mpr (Ne.symm hname)]

theorem classes_append (d : Device) : classes (devices ++ [d]) = addToClass d (classes devices) :=
  List.foldl_append

/-- A class lists the properties of its devices in their order. -/
theorem lookup_classes (name : String) :
    (classes devices).lookup name =
      if ofClass devices name = [] then none
      else some ((ofClass devices name).map (·.properties.toJson)) := by
  induction devices using List.reverseRecOn with
  | nil => rfl
  | append_singleton devices d ih =>
      have hall : ofClass (devices ++ [d]) name =
          ofClass devices name ++ if d.className = name then [d] else [] := by
        rw [ofClass, ofClass, List.filter_append, List.filter_singleton]
        by_cases hname : d.className = name <;> simp [hname]
      rw [classes_append, addToClass_eq, lookup_putItem, hall]
      by_cases hname : d.className = name
      · have hbefore : ((classes devices).lookup d.className).getD [] =
            (ofClass devices name).map (·.properties.toJson) := by
          rw [hname, ih]
          split
          · next hnone => rw [hnone]; rfl
          · rfl
        rw [if_pos hname, if_pos hname, if_neg (by simp), hbefore, List.map_append]
        rfl
      · rw [if_neg hname, if_neg hname, List.append_nil, ih]

theorem nodup_classes : ((classes devices).map (·.1)).Nodup := by
  induction devices using List.reverseRecOn with
  | nil => exact List.nodup_nil
  | append_singleton devices d ih =>
      rw [classes_append, addToClass_eq]
      exact nodup_putItem Prod.fst _ ih

/-- The class of the first device comes first. -/
theorem head_classes (first : Device) :
    ∃ list more, classes (first :: devices) = (first.className, list) :: more := by
  induction devices using List.reverseRecOn with
  | nil => exact ⟨_, [], rfl⟩
  | append_singleton devices d ih =>
      obtain ⟨list, more, hclasses⟩ := ih
      rw [← List.cons_append, classes_append, hclasses, addToClass]
      split
      · exact ⟨_, more, rfl⟩
      · exact ⟨list, _, rfl⟩

/-- What holds of the properties of all devices holds of what the classes list. -/
theorem forall_addToClass {P : Json → Prop} {d : Device} (hd : P d.properties.toJson)
    {classes : List (String × List Json)} (h : ∀ e ∈ classes, ∀ v ∈ e.2, P v) :
    ∀ e ∈ addToClass d classes, ∀ v ∈ e.2, P v := by
  induction classes with
  | nil =>
      intro e he v hv
      obtain rfl := List.mem_singleton.mp he
      obtain rfl := List.mem_singleton.mp hv
      exact hd
  | cons first rest ih =>
      obtain ⟨hfirst, hrest⟩ := List.forall_mem_cons.mp h
      intro e he v hv
      rw [addToClass] at he
      split at he
      · rcases List.mem_cons.mp he with rfl | hmem
        · rcases List.mem_append.mp hv with hold | hnew
          · exact hfirst v hold
          · obtain rfl := List.mem_singleton.mp hnew
            exact hd
        · exact hrest e hmem v hv
      · rcases List.mem_cons.mp he with rfl | hmem
        · exact hfirst v hv
        · exact ih hrest e hmem v hv

theorem forall_classes {P : Json → Prop} (h : ∀ p : Properties, P p.toJson) :
    ∀ e ∈ classes devices, ∀ v ∈ e.2, P v := by
  induction devices using List.reverseRecOn with
  | nil => exact List.forall_mem_nil _
  | append_singleton devices d ih =>
      rw [classes_append]
      exact forall_addToClass (h d.properties) ih

/-! ## Documents -/

/-- The members of the object of classes. -/
def classMembers : List (String × Json) := (classes devices).map fun e => (e.1, .array e.2)

theorem toJson_eq : toJson devices = .wrap path (.object (classMembers devices)) := rfl

theorem plain_toJson : Json.Plain Json.maxDepth (toJson devices) := by
  have hclasses : Json.Plain 123 (.object (classMembers devices)) := by
    refine .object ?_ ?_
    · intro m hm
      obtain ⟨e, he, rfl⟩ := List.mem_map.mp hm
      exact .array (forall_classes devices (fun p => p.plain_toJson 120) e he)
    · rw [classMembers, List.map_map]
      exact nodup_classes devices
  exact hclasses.wrap path

/-- The device that is read for one that was written. -/
def readBack (d : Device) (position : Nat) : Device where
  className := d.className
  id := (d.properties.get? "device_name").getD (toString position)
  properties := d.properties.distinct
  rankMap := none

variable {devices}

theorem members_toJson (devices : List Device) :
    ((toJson devices).getPath? path).bind Json.members? = some (classMembers devices) := by
  rw [toJson_eq, Json.getPath?_wrap]
  rfl

/-- What is read at a position of a class that has devices. -/
theorem ofJson_eq {name : String} (hclass : ofClass devices name ≠ []) (position : Nat) :
    ofJson (toJson devices) (some name) position =
      match (ofClass devices name)[position]? with
      | some d => .ok (readBack d position)
      | none => .error (.notFound (.device name position)) := by
  have hlist : (classMembers devices).lookup name =
      some (.array ((ofClass devices name).map (·.properties.toJson))) := by
    rw [classMembers, lookup_map, lookup_classes, if_neg hclass, Option.map_some]
  simp only [ofJson, members_toJson, findClass, hlist, Json.items?, bind, Except.bind,
    Option.bind_some, List.getElem?_map]
  cases hfound : (ofClass devices name)[position]? with
  | none => rfl
  | some d =>
      have hname : d.className = name :=
        of_decide_eq_true (List.mem_filter.mp (List.mem_of_getElem? hfound)).2
      simp only [Option.map_some, Option.bind_some, Properties.toJson_eq, Json.members?,
        Properties.ofMembers_strings]
      subst hname
      rw [readBack, ← Properties.get?_distinct d.properties]
      rfl

/-- Without a class the class of the first device is read. -/
theorem ofJson_none (first : Device) (devices : List Device) (position : Nat) :
    ofJson (toJson (first :: devices)) none position =
      ofJson (toJson (first :: devices)) (some first.className) position := by
  obtain ⟨list, more, hclasses⟩ := head_classes devices first
  have hmembers : classMembers (first :: devices) =
      (first.className, .array list) :: more.map fun e => (e.1, .array e.2) := by
    rw [classMembers, hclasses, List.map_cons]
  simp only [ofJson, members_toJson, findClass, hmembers, List.lookup_cons_self]

/-- A device stands in its class behind those of its class that come before it. -/
theorem getElem?_ofClass {name : String} {i : Nat} (h : i < devices.length)
    (hname : devices[i].className = name) :
    (ofClass devices name)[(ofClass (devices.take i) name).length]? = some devices[i] := by
  have hbehind : ofClass (devices.drop i) name =
      devices[i] :: ofClass (devices.drop (i + 1)) name := by
    rw [List.drop_eq_getElem_cons h]
    exact List.filter_cons_of_pos (by simp [hname])
  have hsplit : ofClass devices name =
      ofClass (devices.take i) name ++ ofClass (devices.drop i) name := by
    rw [ofClass, ofClass, ofClass, ← List.filter_append, List.take_append_drop]
  rw [hsplit, hbehind, List.getElem?_append_right (Nat.le_refl _), Nat.sub_self]
  rfl

/-! ## Reading back -/

/-- From a text each device is read back by its class and the number of devices of the class
before it, no device is read behind the last of a class, and without a class the class of the
first device is read. -/
structure ReadFrom (devices : List Device) (text : String) : Prop where
  device : ∀ i (h : i < devices.length),
    let position := (devices.take i).countP (·.className = devices[i].className)
    ofText text (some devices[i].className) position = .ok
      { className := devices[i].className
        id := (devices[i].properties.get? "device_name").getD (toString position)
        properties := ⟨firstOfEach Prod.fst devices[i].properties.entries⟩
        rankMap := none }
  behind : ∀ d ∈ devices,
    let position := devices.countP (·.className = d.className)
    ofText text (some d.className) position =
      .error (.notFound (.device d.className position))
  first : ∀ d rest, devices = d :: rest → ∀ position,
    ofText text none position = ofText text (some d.className) position

theorem readFrom_of_ofText? {text : String} (h : Json.ofText? text = some (toJson devices)) :
    ReadFrom devices text := by
  have htext : ∀ class? position,
      ofText text class? position = ofJson (toJson devices) class? position := by
    intro class? position
    rw [ofText, h]
  refine ⟨?_, ?_, ?_⟩
  · intro i hi position
    have hposition : position = (ofClass (devices.take i) devices[i].className).length :=
      List.countP_eq_length_filter
    have hfound := getElem?_ofClass hi rfl
    have hclass : ofClass devices devices[i].className ≠ [] := by
      intro hnone
      rw [hnone] at hfound
      simp at hfound
    rw [htext, hposition, ofJson_eq hclass, hfound]
    rfl
  · intro d hd position
    have hposition : position = (ofClass devices d.className).length :=
      List.countP_eq_length_filter
    have hclass : ofClass devices d.className ≠ [] :=
      List.ne_nil_of_mem (List.mem_filter.mpr ⟨hd, decide_eq_true rfl⟩)
    rw [htext, hposition, ofJson_eq hclass, List.getElem?_eq_none (Nat.le_refl _)]
  · rintro d rest rfl position
    rw [htext, htext, ofJson_none]

/-- Devices are read back from their document, in either layout of its text. -/
theorem devices_read_back (devices : List Device) :
    ReadFrom devices (toJson devices).compact ∧ ReadFrom devices (toJson devices).pretty :=
  ⟨readFrom_of_ofText? (Json.ofText?_compact (plain_toJson devices)),
    readFrom_of_ofText? (Json.ofText?_pretty (plain_toJson devices))⟩

end Device

end IccProfile
