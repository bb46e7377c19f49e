import IccProfile.Files.Disk

/-!
# Search paths

The directories that hold profiles, in the order in which they are searched. They are
taken from the environment: named directories first, then those of the user, then
those of the system. A directory is listed once.
-/

set_option autoImplicit false

namespace IccProfile

/-- The values of the environment. -/
structure Environment where
  /-- Directories of profiles, with colons between them. -/
  profilePath : Option String := none
  /-- The data directory of the user. -/
  dataHome : Option String := none
  /-- The data directories of the system, with colons between them. -/
  dataDirs : Option String := none
  /-- The configuration directory of the user. -/
  configHome : Option String := none
  /-- The home directory of the user. -/
  home : Option String := none
  /-- The home directory of the user's account, for want of another. -/
  accountHome : Option String := none
deriving DecidableEq, Inhabited

namespace Environment

/-- A value, unless it is empty. -/
def filled (value : Option String) : Option String := value.filter (· ≠ "")

/-- The home directory. -/
def homeDirectory? (e : Environment) : Option Path :=
  ((filled e.home).or (filled e.accountHome)).map Path.mk

/-- The directory of profiles below a data directory. -/
def profileDirectory (dataDirectory : Path) : Path := dataDirectory.join ⟨"color/icc"⟩

/-- The named directories. -/
def namedDirectories (e : Environment) : List Path :=
  match e.profilePath with
  | some text => (Path.splitList text).filter (·.text ≠ "")
  | none => []

/-- The data directory of the user. -/
def userDataDirectory? (e : Environment) : Option Path :=
  match filled e.dataHome with
  | some text => some ⟨text⟩
  | none => e.homeDirectory?.map (·.join ⟨".local/share"⟩)

/-- The data directories of the system. -/
def systemDataDirectories (e : Environment) : List Path :=
  Path.splitList ((filled e.dataDirs).getD "/usr/local/share:/usr/share")

/-- The directories of profiles in their order, before repeated ones are left out. -/
def profileDirectories (e : Environment) : List Path :=
  e.namedDirectories
    ++ (e.userDataDirectory?.map profileDirectory).toList
    ++ (e.homeDirectory?.map fun home => (home.join ⟨".color"⟩).join ⟨"icc"⟩).toList
    ++ e.systemDataDirectories.map profileDirectory

/-- The configuration directory of the user; a relative one does not count. -/
def configDirectory? (e : Environment) : Option Path :=
  match e.configHome.filter fun text => Path.isAbsolute ⟨text⟩ with
  | some text => some ⟨text⟩
  | none => e.homeDirectory?.map (·.join ⟨".config"⟩)

end Environment

/-- Directories that hold profiles. -/
structure SearchPaths where
  dirs : List Path
deriving DecidableEq, Inhabited

namespace SearchPaths

/-- Adds a directory at the end unless it is listed. -/
def push (s : SearchPaths) (dir : Path) : SearchPaths :=
  if s.dirs.any (·.same dir) then s else ⟨s.dirs ++ [dir]⟩

/-- Adds directories one after the other. -/
def pushAll (s : SearchPaths) (dirs : List Path) : SearchPaths := dirs.foldl push s

/-- The directories that the environment names. -/
def ofEnvironment (e : Environment) : SearchPaths := pushAll ⟨[]⟩ e.profileDirectories

/-- The path of the working directory. -/
def workingPath (d : Disk) : Path := Path.ofComponents ("/" :: d.working)

/-- The file of a name: the name itself when it is absolute, else the first file of that name
below the directories, else below the working directory. -/
def resolve? (s : SearchPaths) (d : Disk) (name : Path) : Option Path :=
  if name.text = "" then none
  else if name.isAbsolute then if d.isFile name then some name else none
  else (s.dirs ++ [workingPath d]).map (·.join name) |>.find? d.isFile

end SearchPaths

end IccProfile
