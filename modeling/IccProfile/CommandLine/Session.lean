import IccProfile.Catalog.Basic
import IccProfile.CommandLine.Arguments
import IccProfile.CommandLine.Overview
import IccProfile.Settings.File

/-!
# Running commands

A command works on a catalog of profiles, the disk and the settings. It gives what is
to be printed, or says why it failed; what it did to the disk before it failed stays.
-/

set_option autoImplicit false

namespace IccProfile.CommandLine

/-- What a command prints. -/
inductive Output
  | text (content : String)
  | bytes (content : Bytes)
deriving DecidableEq, Inhabited

/-- The bytes of what is printed. -/
def Output.toBytes : Output → Bytes
  | .text content => Text.utf8 content
  | .bytes content => content

/-- Why a command fails. -/
inductive Failure
  | noSettingsFile
  | cannotOpen (file : Path) (cause : Error)
  | cannotLoad (profile : String) (cause : Error)
  | cannotRead (file : Path) (cause : Error)
  | cannotWrite (file : Path) (cause : Error)
  | cannotFind (profile : Path)
  | noneSuits (device : Device)
  | noneAssigned (device : Device)
  | noRankMap (device : Device)
  | noFileName
  | other (cause : Error)
deriving DecidableEq, Inhabited

/-- The wording of a failure, with a wording for its cause. -/
def Failure.message (wording : Error → String) : Failure → String
  | .noSettingsFile => "no settings file location"
  | .cannotOpen file cause => "cannot open " ++ file.text ++ ": " ++ wording cause
  | .cannotLoad profile cause => "cannot load " ++ profile ++ ": " ++ wording cause
  | .cannotRead file cause => "cannot read " ++ file.text ++ ": " ++ wording cause
  | .cannotWrite file cause => "cannot write " ++ file.text ++ ": " ++ wording cause
  | .cannotFind profile => "cannot find " ++ profile.text
  | .noneSuits device => "no profile ranks above 0 for " ++ device.settingsKey
  | .noneAssigned device => "no profile assigned to " ++ device.settingsKey
  | .noRankMap device => "no rank map for " ++ device.settingsKey
  | .noFileName => "profile has no file name"
  | .other cause => wording cause

/-- What a command works on. -/
structure Session where
  workspace : Workspace
  settings : Settings
  /-- The file that keeps the settings. -/
  settingsFile : Path

/-- The end of a command: its output or failure, and what it leaves. -/
abbrev Ended := Except Failure Output × Session

namespace Session

/-- The session with another workspace. -/
def withWorkspace (s : Session) (w : Workspace) : Session := { s with workspace := w }

/-- Reads the text of a file that the user names. -/
def readText (s : Session) (file : Path) : Except Failure String :=
  (s.workspace.disk.readText file).mapError fun _ => .cannotRead file .io

/-- The rank map for a device: that of the named file, else the stored one. -/
def rankMapFor (s : Session) (choice : DeviceChoice) (device : Device) :
    Except Failure (Option RankMap) := do
  match choice.rankMap with
  | some file =>
    let text ← s.readText file
    let map ← (RankMap.ofText text 0).mapError .other
    return some map
  | none => (s.settings.storedRankMap device).mapError .other

/-- Reads the chosen device with its rank map. -/
def loadDevice (s : Session) (choice : DeviceChoice) : Except Failure Device := do
  let text ← s.readText choice.file
  let device ← (Device.ofText text choice.className choice.position).mapError .other
  let rankMap ← s.rankMapFor choice device
  return { device with rankMap }

/-- The pattern for the profiles of the class that suits a device. -/
def classPattern (device : Device) : Profile :=
  Profile.ofField .profileClass (DeviceClasses.standard.profileClass device.className).signature

/-- The known profiles that suit a device, the best first. -/
def rankedFor (s : Session) (device : Device) : List (Int32 × Loaded) × Session :=
  let (found, w) := s.workspace.profiles [classPattern device] {}
  (Matching.ranked (fun l => Matching.rankProfile device l.profile w.catalog.policy) found,
    s.withWorkspace w)

/-- Flags for looking at a profile as it is. -/
def inspecting : LoadFlags := { LoadFlags.uncached with noRepair := true }

/-- Shows a profile. -/
def info (s : Session) (name : Path) : Ended :=
  match s.workspace.openProfile name inspecting with
  | (.ok loaded, w) => (.ok (.text (overview loaded.profile)), s.withWorkspace w)
  | (.error cause, w) => (.error (.cannotLoad name.text cause), s.withWorkspace w)

/-- The line of a ranked profile. -/
def rankLine (rank : Int32) (profile : Profile) : String :=
  toString rank.toInt ++ ": " ++ profile.description.getD "" ++ " ("
    ++ (profile.fileName.map (·.text)).getD "" ++ ")"

/-- Shows the known profiles with their ranks for a device. -/
def list (s : Session) (choice : DeviceChoice) : Ended :=
  match s.loadDevice choice with
  | .error failure => (.error failure, s)
  | .ok device =>
    let (ranked, s) := s.rankedFor device
    (.ok (.text (ofLines (ranked.map fun (rank, l) => rankLine rank l.profile))), s)

/-- Changes the settings and writes them to their file. -/
def changeSettings (s : Session) (settings : Settings) : Except Failure Unit × Session :=
  let (result, disk) := settings.save s.workspace.disk s.settingsFile
  (result.mapError .other,
    { s with settings, workspace := { s.workspace with disk } })

/-- Stores the assignment of a profile to a device, by the name of the profile's file. -/
def storeAssignment (s : Session) (device : Device) (profile : Profile) : Ended :=
  match profile.fileName.bind Path.fileName? with
  | none => (.error .noFileName, s)
  | some name =>
    match s.changeSettings (s.settings.assignProfile device (some name)) with
    | (.ok _, s) => (.ok (.text (device.settingsKey ++ ": " ++ name ++ "\n")), s)
    | (.error failure, s) => (.error failure, s)

/-- The name that asks for the profile that ranks highest. -/
def automatic : String := "automatic"

/-- The profile that ranks highest for a device, when its rank is above zero. -/
def bestFor (s : Session) (device : Device) : Except Failure Profile × Session :=
  let (ranked, s) := s.rankedFor device
  let policy := s.workspace.catalog.policy
  match Matching.select? (Matching.rankProfile device · policy) (ranked.map (·.2.profile)) none with
  | some profile => (.ok profile, s)
  | none => (.error (.noneSuits device), s)

/-- The profile of a name. -/
def namedProfile (s : Session) (name : String) : Except Failure Profile × Session :=
  match s.workspace.openProfile ⟨name⟩ {} with
  | (.ok loaded, w) => (.ok loaded.profile, s.withWorkspace w)
  | (.error cause, w) => (.error (.cannotLoad name cause), s.withWorkspace w)

/-- Assigns a profile to a device. -/
def assign (s : Session) (choice : DeviceChoice) (name : String) : Ended :=
  match s.loadDevice choice with
  | .error failure => (.error failure, s)
  | .ok device =>
    match if name = automatic then s.bestFor device else s.namedProfile name with
    | (.ok profile, s) => s.storeAssignment device profile
    | (.error failure, s) => (.error failure, s)

/-- Takes the assignment of a device back. -/
def unassign (s : Session) (choice : DeviceChoice) : Ended :=
  match s.loadDevice choice with
  | .error failure => (.error failure, s)
  | .ok device =>
    match s.changeSettings (s.settings.assignProfile device none) with
    | (.ok _, s) => (.ok (.text ""), s)
    | (.error failure, s) => (.error failure, s)

/-- Assigns the named profile, else the assigned one again, else the best. -/
def setup (s : Session) (choice : DeviceChoice) (name? : Option String) : Ended :=
  match s.loadDevice choice with
  | .error failure => (.error failure, s)
  | .ok device =>
    s.assign choice ((name?.or (s.settings.assignedProfile? device)).getD automatic)

/-- The bytes of the profile that is assigned to a device. -/
def dumpProfile (s : Session) (device : Device) : Ended :=
  match s.settings.assignedProfile? device with
  | none => (.error (.noneAssigned device), s)
  | some name =>
    match s.workspace.openProfile ⟨name⟩ {} with
    | (.ok loaded, w) => (.ok (.bytes loaded.profile.toBytes), s.withWorkspace w)
    | (.error cause, w) => (.error (.other cause), s.withWorkspace w)

/-- The text of a JSON document with one item per line. -/
def document (json : Json) : Output := .text (json.pretty ++ "\n")

/-- Prints data of a device. -/
def dump (s : Session) (kind : DumpKind) (choice : DeviceChoice) : Ended :=
  match s.loadDevice choice with
  | .error failure => (.error failure, s)
  | .ok device =>
    match kind with
    | .profile => s.dumpProfile device
    | .device => (.ok (document (Device.toJson [device])), s)
    | .rankMap =>
      match device.rankMap with
      | some map => (.ok (document (map.toJson device.className)), s)
      | none => (.error (.noRankMap device), s)

/-- Writes what was printed to a file instead. -/
def toFile (file : Path) : Ended → Ended
  | (.error failure, s) => (.error failure, s)
  | (.ok output, s) =>
    match s.workspace.disk.write file output.toBytes with
    | .ok disk => (.ok (.text ""), s.withWorkspace { s.workspace with disk })
    | .error _ => (.error (.cannotWrite file .io), s)

/-- What became of an ID that was compared with the computed one. -/
def fixNote : IdCheck → String
  | .valid => "unchanged"
  | .missing => "added"
  | .mismatch .. => "replaced"

/-- Stores the computed ID in a profile file. -/
def fixId (s : Session) (name : Path) : Ended :=
  match s.workspace.resolve? name with
  | none => (.error (.cannotFind name), s)
  | some file =>
    match Profile.load s.workspace.disk file inspecting with
    | (.error cause, disk) =>
      (.error (.other cause), s.withWorkspace { s.workspace with disk })
    | (.ok profile, disk) =>
      let fixed := profile.repairId
      match disk.write file fixed.toBytes with
      | .error _ => (.error (.other .io), s.withWorkspace { s.workspace with disk })
      | .ok disk =>
        (.ok (.text (file.text ++ ": " ++ profile.computedId.toHex ++ " ("
            ++ fixNote profile.checkId ++ ")\n")),
          s.withWorkspace { s.workspace with disk })

/-- Does what a command asks for. -/
def perform (s : Session) : Command → Ended
  | .info profile => s.info profile
  | .list device => s.list device
  | .assign device profile => s.assign device profile
  | .unassign device => s.unassign device
  | .setup device profile => s.setup device profile
  | .dump kind device none => s.dump kind device
  | .dump kind device (some file) => toFile file (s.dump kind device)
  | .fixId profile => s.fixId profile

end Session

namespace Invocation

/-- The file that keeps the settings: the named one, else that of the user. -/
def settingsFile? (i : Invocation) (e : Environment) : Option Path :=
  i.settings.or (e.configDirectory?.map (·.join ⟨"oxicc/settings.json"⟩))

/-- The directories that are searched: the named ones, then those of the environment. -/
def searchPaths (i : Invocation) (e : Environment) : SearchPaths :=
  SearchPaths.pushAll ⟨i.profileDirs⟩ (SearchPaths.ofEnvironment e).dirs

/-- Runs a command on a disk. -/
def run (i : Invocation) (e : Environment) (disk : Disk) : Except Failure Output × Disk :=
  match i.settingsFile? e with
  | none => (.error .noSettingsFile, disk)
  | some settingsFile =>
    match Settings.load disk settingsFile with
    | .error cause => (.error (.cannotOpen settingsFile cause), disk)
    | .ok settings =>
      let workspace : Workspace := { catalog := { paths := i.searchPaths e }, disk }
      let (result, s) := Session.perform { workspace, settings, settingsFile } i.command
      (result, s.workspace.disk)

end Invocation

end IccProfile.CommandLine
