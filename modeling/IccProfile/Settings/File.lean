import IccProfile.Files.Disk
import IccProfile.Json.Typed
import IccProfile.Settings.Basic
import IccProfile.Text.Utf8

/-!
# The settings file

Settings are kept in a file as one JSON object of texts, which is written anew after
every change. A file that is not there means that there are no settings yet.
-/

set_option autoImplicit false

namespace IccProfile

/-- The text of a file. -/
def Disk.readText (d : Disk) (p : Path) : Except DiskFault String := do
  match Text.ofUtf8? (← d.read p) with
  | some text => return text
  | none => .error .refused

namespace Settings

/-- The settings of a JSON text. -/
def ofText? (text : String) : Option Settings := do
  let document ← Json.Document.ofText? text
  let pairs ← Json.strings? document
  return ofPairs pairs

/-- The JSON text of the settings. -/
def toText (s : Settings) : String :=
  (Json.object (s.entries.map fun e => (e.1, .string e.2))).pretty

/-- Reads the settings of a file. -/
def load (d : Disk) (p : Path) : Except Error Settings :=
  match d.readText p with
  | .ok text =>
    match ofText? text with
    | some s => .ok s
    | none => .error .json
  | .error .absent => .ok empty
  | .error .refused => .error .io

/-- Writes the settings to a file, with the directories above it. The disk is given back as far
as it was changed. -/
def save (s : Settings) (d : Disk) (p : Path) : Except Error Unit × Disk :=
  let (written, d) := d.writeDeep p (Text.utf8 s.toText)
  (written.mapError fun _ => .io, d)

end Settings

end IccProfile
