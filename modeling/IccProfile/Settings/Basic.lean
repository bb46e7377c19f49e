import IccProfile.Device.Basic

/-!
# Settings

Texts by path, in ascending order of the paths. A device has two of them: the name of
the profile that is assigned to it, and its rank map as JSON.
-/

set_option autoImplicit false

namespace IccProfile

/-- Values by path, the paths in ascending order. -/
structure Settings where
  entries : List (String × String)
deriving DecidableEq, Inhabited

namespace Settings

/-- No settings. -/
def empty : Settings := ⟨[]⟩

/-- The value of a path. -/
def get? (s : Settings) (path : String) : Option String := s.entries.lookup path

/-- Puts a value in the place of its path. -/
def insertEntry (path value : String) : List (String × String) → List (String × String)
  | [] => [(path, value)]
  | (p, v) :: rest =>
    if path < p then (path, value) :: (p, v) :: rest
    else if path = p then (path, value) :: rest
    else (p, v) :: insertEntry path value rest

/-- Sets the value of a path, or erases it. -/
def set (s : Settings) (path : String) : Option String → Settings
  | some value => ⟨insertEntry path value s.entries⟩
  | none => ⟨s.entries.filter (·.1 ≠ path)⟩

/-- The settings of pairs set one after the other. -/
def ofPairs (pairs : List (String × String)) : Settings :=
  pairs.foldl (fun s e => s.set e.1 (some e.2)) empty

/-- Whether a path starts with a text. -/
def startsWith (start path : String) : Bool := start.toList.isPrefixOf path.toList

/-- The paths that start with a text: from the first that is not below it on, as long as they do
so. -/
def keys (s : Settings) (start : String) : List String :=
  ((s.entries.map (·.1)).dropWhile (· < start)).takeWhile (startsWith start)

/-! ## Devices -/

/-- The path of a setting of a device. -/
def devicePath (device : Device) (key : String) : String := device.settingsKey ++ "/" ++ key

/-- The path of the assigned profile. -/
def profilePath (device : Device) : String := devicePath device "profile_name"

/-- The path of the rank map. -/
def rankMapPath (device : Device) : String := devicePath device "rank_map"

/-- The name of the profile that is assigned to a device. -/
def assignedProfile? (s : Settings) (device : Device) : Option String :=
  (s.get? (profilePath device)).filter (· ≠ "")

/-- Assigns a profile to a device, or takes the assignment back. -/
def assignProfile (s : Settings) (device : Device) (name? : Option String) : Settings :=
  s.set (profilePath device) name?

/-- The rank map that is stored for a device. -/
def storedRankMap (s : Settings) (device : Device) : Except Error (Option RankMap) :=
  match s.get? (rankMapPath device) with
  | none => .ok none
  | some text => (RankMap.ofText text 0).map some

/-- Stores a rank map for a device. -/
def storeRankMap (s : Settings) (device : Device) (map : RankMap) : Settings :=
  s.set (rankMapPath device) (some (map.toJson device.className).compact)

end Settings

end IccProfile
