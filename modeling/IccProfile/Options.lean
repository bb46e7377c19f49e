import IccProfile.Json.Typed

/-!
# Options

The constants of ranking and the flags of loading, with their JSON forms.
-/

set_option autoImplicit false

namespace IccProfile

/-- The constants of ranking profiles for devices. -/
structure RankPolicy where
  /-- Taken from profiles that were made without measuring and name a serial number. -/
  serialPenalty : Int32 := 13
  /-- Taken from other profiles that were made without measuring. -/
  penalty : Int32 := 2
  /-- Numbers are equal when half their difference is below this. -/
  delta : Float := 0.0005

namespace RankPolicy

/-- The names of the constants. -/
def names : List String :=
  ["auto_generated_serial_penalty", "auto_generated_penalty", "numeric_delta"]

/-- Reads the constants; each may be left out. -/
def ofText? (text : String) : Option RankPolicy := do
  let document ← Json.Document.ofText? text
  let standard : RankPolicy := {}
  match ← Json.fields? names document with
  | [serialPenalty, penalty, delta] =>
    let serialPenalty ← Json.optional? Json.asInt32? standard.serialPenalty serialPenalty
    let penalty ← Json.optional? Json.asInt32? standard.penalty penalty
    let delta ← Json.optional? Json.asFloat? standard.delta delta
    return { serialPenalty, penalty, delta }
  | _ => none

end RankPolicy

/-- How profiles are loaded. -/
structure LoadFlags where
  /-- Do not look into the cache. -/
  noCacheRead : Bool := false
  /-- Do not keep the loaded profile in the cache. -/
  noCacheWrite : Bool := false
  /-- Take profiles of version 2. -/
  version2 : Bool := false
  /-- Take profiles of version 4. -/
  version4 : Bool := false
  /-- Do not write a missing or wrong ID into the file. -/
  noRepair : Bool := false
  /-- Do not compare the time of the file with that of the cached profile. -/
  skipTimeCheck : Bool := false
  /-- Keep profiles of one identity in a listing. -/
  allowDuplicates : Bool := false
deriving DecidableEq, Inhabited

namespace LoadFlags

/-- Neither reads nor fills the cache. -/
def uncached : LoadFlags := { noCacheRead := true, noCacheWrite := true }

/-- Whether a major version is asked for: any when none is named. -/
def accepts (f : LoadFlags) (major : UInt8) : Bool :=
  (!f.version2 && !f.version4) || (f.version2 && major == 2) || (f.version4 && major == 4)

/-- The names of the flags. -/
def names : List String :=
  ["no_cache_read", "no_cache_write", "icc_version_2", "icc_version_4", "no_repair",
    "skip_mtime_check", "allow_duplicates"]

/-- The flags in the order of their names. -/
def values (f : LoadFlags) : List Bool :=
  [f.noCacheRead, f.noCacheWrite, f.version2, f.version4, f.noRepair, f.skipTimeCheck,
    f.allowDuplicates]

/-- The flags of a list in the order of their names. -/
def ofValues? : List Bool → Option LoadFlags
  | [noCacheRead, noCacheWrite, version2, version4, noRepair, skipTimeCheck, allowDuplicates] =>
    some { noCacheRead, noCacheWrite, version2, version4, noRepair, skipTimeCheck,
           allowDuplicates }
  | _ => none

/-- The JSON form of the flags. -/
def toJson (f : LoadFlags) : Json := .object (names.zip (f.values.map .bool))

/-- Reads the flags; all have to be there. -/
def ofText? (text : String) : Option LoadFlags := do
  let document ← Json.Document.ofText? text
  let fields ← Json.fields? names document
  let values ← fields.mapM (Json.required? Json.asBool?)
  ofValues? values

end LoadFlags

end IccProfile
