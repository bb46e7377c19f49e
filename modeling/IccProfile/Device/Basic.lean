import IccProfile.Device.RankMap
import IccProfile.Header.Kind

/-!
# Devices

A device has a class, a name within the class, properties, and perhaps a rank map.
Devices are exchanged as JSON documents that list the properties of each device
under its class.
-/

set_option autoImplicit false

namespace IccProfile

/-- A device. -/
structure Device where
  /-- The device class, for example a monitor or a printer. -/
  className : String
  /-- The name or position within the class. -/
  id : String
  properties : Properties
  rankMap : Option RankMap
deriving DecidableEq, Inhabited

namespace Device

/-- The path of a device in the settings. -/
def settingsKey (d : Device) : String :=
  "org/freedesktop/openicc/device/" ++ d.className ++ "/" ++ d.id

/-- The names from the root of a document to its device classes. -/
def path : List String := ["org", "freedesktop", "openicc", "device"]

/-- The list of devices of a class, of the first class when none is asked for. -/
def findClass (classes : List (String × Json)) (class? : Option String) :
    Except Error (String × Json) :=
  match class? with
  | some name =>
    match classes.lookup name with
    | some list => .ok (name, list)
    | none => .error (.notFound (.deviceClass name))
  | none =>
    match classes with
    | first :: _ => .ok first
    | [] => .error (.notFound .anyDeviceClass)

/-- The device at a position of a class. Its name is the property `device_name`, else the
position. -/
def ofJson (root : Json) (class? : Option String) (position : Nat) : Except Error Device := do
  let some classes := (root.getPath? path).bind Json.members?
    | .error (.notFound .deviceRoot)
  let (className, list) ← findClass classes class?
  let some members := (list.items?.bind (·[position]?)).bind Json.members?
    | .error (.notFound (.device className position))
  let properties := Properties.ofMembers members
  return {
    className, properties
    id := (properties.get? "device_name").getD (toString position)
    rankMap := none }

/-- The device at a position of a class of a text. -/
def ofText (text : String) (class? : Option String) (position : Nat) : Except Error Device :=
  match Json.ofText? text with
  | some root => ofJson root class? position
  | none => .error .json

/-- Adds a device at the end of the list of its class. -/
def addToClass (device : Device) : List (String × List Json) → List (String × List Json)
  | [] => [(device.className, [device.properties.toJson])]
  | (name, list) :: rest =>
    if name = device.className then (name, list ++ [device.properties.toJson]) :: rest
    else (name, list) :: addToClass device rest

/-- The document of devices, those of a class together. -/
def toJson (devices : List Device) : Json :=
  .wrap path
    (.object ((devices.foldl (fun classes d => addToClass d classes) []).map
      fun (name, list) => (name, .array list)))

end Device

/-- The profile classes for device classes, the latest entry first. -/
structure DeviceClasses where
  entries : List (String × ProfileClass)
deriving DecidableEq, Inhabited

namespace DeviceClasses

/-- The device classes known from the start. -/
def standard : DeviceClasses :=
  ⟨[("monitor", .display), ("printer", .output), ("scanner", .input), ("camera", .input)]⟩

/-- Sets the profile class for a device class. -/
def register (t : DeviceClasses) (deviceClass : String) (profileClass : ProfileClass) :
    DeviceClasses := ⟨(deviceClass, profileClass) :: t.entries⟩

/-- The profile class for a device class, that of displays when it is not known. -/
def profileClass (t : DeviceClasses) (deviceClass : String) : ProfileClass :=
  (t.entries.lookup deviceClass).getD .display

end DeviceClasses

end IccProfile
