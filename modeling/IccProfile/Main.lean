import IccProfile.CommandLine.Session

/-!
# The program

The outer layer: it takes a snapshot of the files that a command can reach, runs the
command on it, and carries what changed back to the files. A file that cannot be opened
for writing is locked in the snapshot. What a command does is decided by
`CommandLine.Invocation.run` alone.
-/

set_option autoImplicit false

namespace IccProfile.CommandLine

/-- How the program is used. -/
def usage : String :=
  "Usage: oxicc [-v] [--settings FILE] [--profile-dir DIR]... COMMAND\n\n"
    ++ "  info PROFILE                show a profile\n"
    ++ "  list DEVICE                 rank the known profiles for a device\n"
    ++ "  assign DEVICE PROFILE       assign a profile, or the \"automatic\" one\n"
    ++ "  unassign DEVICE             take the assignment back\n"
    ++ "  setup DEVICE [PROFILE]      assign a profile, the assigned one, or the best\n"
    ++ "  dump KIND DEVICE [-o FILE]  print icc, openicc or openicc-rank-map\n"
    ++ "  fix-id PROFILE              store the computed ID\n\n"
    ++ "DEVICE: --device FILE [--class CLASS] [--pos N] [--rank-map FILE]\n"

namespace Snapshot

/-- The text of a place. -/
def textOf (place : Place) : String := "/" ++ String.intercalate "/" place

/-- What is at a place. -/
def look (place : Place) : IO (Option DiskEntry) := do
  try
    let found ← (← IO.FS.realPath (textOf place)).metadata
    match found.type with
    | .dir => return some .directory
    | .file => return some (.file (← IO.FS.readBinFile (textOf place)).toList 0)
    | _ => return none
  catch _ => return none

/-- The names in a directory. -/
def names (place : Place) : IO (List String) := do
  try
    return (← (← IO.FS.realPath (textOf place)).readDir).toList.map (·.fileName)
  catch _ => return []

/-- Whether there is a file at a place that cannot be written. -/
def isLocked (place : Place) (entry : DiskEntry) : IO Bool := do
  match entry with
  | .directory => return false
  | .file .. =>
    try
      discard <| IO.FS.Handle.mk (textOf place) .readWrite
      return false
    catch _ => return true

/-- A disk with an entry at a place. -/
def put (d : Disk) (place : Place) (entry : DiskEntry) : IO Disk := do
  if place = [] then return d
  let locked := if ← isLocked place entry then place :: d.locked else d.locked
  return { d with entries := Disk.putEntry place entry d.entries, locked }

/-- Takes up what stands along segments, also behind a directory that could still be made. -/
def along (d : Disk) : Place → List String → IO Disk
  | _, [] => return d
  | place, segment :: rest => do
    let next :=
      if segment = "" ∨ segment = "." then place
      else if segment = ".." then place.dropLast
      else place ++ [segment]
    match ← look next with
    | some entry => along (← put d next entry) next rest
    | none => along d next rest

/-- Takes up what a path leads to. -/
def path (d : Disk) (p : Path) : IO Disk := do
  let start := if p.isAbsolute then [] else d.working
  along d start p.segments

/-- Takes up everything below a directory. -/
partial def below (d : Disk) (place : Place) : IO Disk := do
  let mut d := d
  for name in ← names place do
    match ← look (place ++ [name]) with
    | some .directory => d ← below (← put d (place ++ [name]) .directory) (place ++ [name])
    | some entry => d ← put d (place ++ [name]) entry
    | none => pure ()
  return d

/-- Takes up a directory with everything below it. -/
def tree (d : Disk) (dir : Path) : IO Disk := do
  let d ← path d dir
  match d.locate dir with
  | .ok place => if d.isDirectoryAt place then below d place else return d
  | .error _ => return d

/-- Carries the entries that differ from those before back to the files. -/
def store (before after : Disk) : IO Unit := do
  for (place, entry) in after.entries do
    if before.entries.lookup place ≠ some entry then
      match entry with
      | .directory => IO.FS.createDirAll (textOf place)
      | .file content _ => IO.FS.writeBinFile (textOf place) ⟨content.toArray⟩

end Snapshot

/-- The files that a choice of a device names. -/
def DeviceChoice.files (c : DeviceChoice) : List Path := c.file :: c.rankMap.toList

/-- The files that a command names, and the names of profiles in it. -/
def Command.files : Command → List Path × List String
  | .info profile | .fixId profile => ([], [profile.text])
  | .list device | .unassign device => (device.files, [])
  | .assign device profile => (device.files, [profile])
  | .setup device profile => (device.files, profile.toList)
  | .dump _ device output => (device.files ++ output.toList, [])

/-- The snapshot that a command runs on. -/
def Invocation.snapshot (i : Invocation) (e : Environment) : IO Disk := do
  let mut working := []
  try working := (Path.segments ⟨(← IO.currentDir).toString⟩).filter (· ≠ "")
  catch _ => pure ()
  let mut d ← Snapshot.path { entries := [], working := [], clock := 0 }
    ⟨String.intercalate "/" working⟩
  d := { d with working }
  let dirs := (i.searchPaths e).dirs
  for dir in dirs do d ← Snapshot.tree d dir
  let (files, named) := i.command.files
  let settingsFile := i.settingsFile? e
  for file in settingsFile.toList ++ files do d ← Snapshot.path d file
  let stored := match settingsFile.map (Settings.load d) with
    | some (.ok settings) => settings.entries.map (·.2)
    | _ => []
  for name in named ++ stored do
    for dir in dirs ++ [SearchPaths.workingPath d] do
      d ← Snapshot.path d (dir.join ⟨name⟩)
  return d

/-- The environment of the process. -/
def processEnvironment : IO Environment := do
  return {
    profilePath := ← IO.getEnv "OXICC_PROFILE_PATH"
    dataHome := ← IO.getEnv "XDG_DATA_HOME"
    dataDirs := ← IO.getEnv "XDG_DATA_DIRS"
    configHome := ← IO.getEnv "XDG_CONFIG_HOME"
    home := ← IO.getEnv "HOME" }

/-- Runs a command on the files of the machine. -/
def Invocation.execute (i : Invocation) : IO UInt32 := do
  let e ← processEnvironment
  let before ← i.snapshot e
  let (result, after) := i.run e before
  Snapshot.store before after
  match result with
  | .ok output =>
    let stdout ← IO.getStdout
    stdout.write ⟨output.toBytes.toArray⟩
    stdout.flush
    return 0
  | .error failure =>
    IO.eprintln ("oxicc: " ++ failure.message Error.message)
    return 1

end IccProfile.CommandLine

/-- Runs the program with the words of its command line. -/
def main (args : List String) : IO UInt32 := do
  match IccProfile.CommandLine.Invocation.ofWords args with
  | .error .help =>
    IO.print IccProfile.CommandLine.usage
    return 0
  | .error .misuse =>
    IO.eprint IccProfile.CommandLine.usage
    return 2
  | .ok invocation => invocation.execute
