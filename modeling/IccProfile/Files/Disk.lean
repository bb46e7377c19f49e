import IccProfile.Bytes
import IccProfile.Files.Path

/-!
# Files

The files that the library works on, as a value: directories and files by their
place, which is the list of names from the root. A clock gives every write a time
that no file had before. A locked place cannot be written, though it can be read.

A path fails in one of two ways: nothing is there, or the path cannot be used. The
second covers a file where a directory is needed or the other way round, a name or a
path that is too long, a path with a null character, and a change at a locked place.

What makes directories gives the disk back also when it fails, with the directories
that were made until then.
-/

set_option autoImplicit false

namespace IccProfile

/-- The names from the root. -/
abbrev Place := List String

/-- What is at a place. -/
inductive DiskEntry
  | directory
  | file (content : Bytes) (time : Nat)
deriving DecidableEq, Inhabited

/-- The way in which a file operation fails. -/
inductive DiskFault
  | absent
  | refused
deriving DecidableEq, Inhabited

/-- Directories and files. -/
structure Disk where
  entries : List (Place × DiskEntry)
  /-- The place where relative paths start. -/
  working : Place
  /-- The time of the latest write. -/
  clock : Nat
  /-- The places that cannot be written: a file keeps its content, a directory its entries. -/
  locked : List Place := []
deriving Inhabited

namespace Disk

/-- What is at a place. The root is always a directory. -/
def entry? (d : Disk) (place : Place) : Option DiskEntry :=
  if place = [] then some .directory else d.entries.lookup place

/-- Whether a place holds a directory. -/
def isDirectoryAt (d : Disk) (place : Place) : Bool := d.entry? place = some .directory

/-- Whether a file can be written at a place: over the one that is there, or as a new one in the
directory of the place. -/
def canWrite (d : Disk) (place : Place) : Bool :=
  match d.entry? place with
  | some .directory => false
  | some (.file ..) => place ∉ d.locked
  | none => place.dropLast ∉ d.locked

/-- Goes from a place along segments; each place but the one where it ends has to be a
directory. -/
def walk (d : Disk) : Place → List String → Except DiskFault Place
  | place, [] => .ok place
  | place, segment :: rest =>
    match d.entry? place with
    | none => .error .absent
    | some (.file ..) => .error .refused
    | some .directory =>
      if segment = "" ∨ segment = "." then d.walk place rest
      else if segment = ".." then d.walk place.dropLast rest
      else if Path.maxNameSize < segment.utf8ByteSize then .error .refused
      else d.walk (place ++ [segment]) rest

/-- The place that segments of a path lead to. -/
def locateAlong (d : Disk) (p : Path) (segments : List String) : Except DiskFault Place :=
  if !p.isUsable then .error .refused
  else if p.text = "" then .error .absent
  else d.walk (if p.isAbsolute then [] else d.working) segments

/-- The place that a path leads to, where there need not be anything. -/
def locate (d : Disk) (p : Path) : Except DiskFault Place := d.locateAlong p p.segments

/-- What a path leads to. -/
def find? (d : Disk) (p : Path) : Option DiskEntry :=
  match d.locate p with
  | .ok place => d.entry? place
  | .error _ => none

/-- Whether a path leads to a file. -/
def isFile (d : Disk) (p : Path) : Bool :=
  match d.find? p with
  | some (.file ..) => true
  | _ => false

/-- Whether a path leads to a directory. -/
def isDirectory (d : Disk) (p : Path) : Bool := d.find? p = some .directory

/-- The content of a file. -/
def read (d : Disk) (p : Path) : Except DiskFault Bytes := do
  let place ← d.locate p
  match d.entry? place with
  | some (.file content _) => return content
  | some .directory => .error .refused
  | none => .error .absent

/-- The time of the latest write to a file. -/
def time? (d : Disk) (p : Path) : Option Nat :=
  match d.find? p with
  | some (.file _ time) => some time
  | _ => none

/-- Puts an entry at a place. -/
def putEntry (place : Place) (entry : DiskEntry) :
    List (Place × DiskEntry) → List (Place × DiskEntry)
  | [] => [(place, entry)]
  | (p, e) :: rest =>
    if p = place then (place, entry) :: rest else (p, e) :: putEntry place entry rest

/-- Puts a file with a new time at a place. -/
def putFile (d : Disk) (place : Place) (content : Bytes) : Disk :=
  { d with
    entries := putEntry place (.file content (d.clock + 1)) d.entries
    clock := d.clock + 1 }

/-- Writes a file into a directory that is there. -/
def write (d : Disk) (p : Path) (content : Bytes) : Except DiskFault Disk := do
  let place ← d.locate p
  if d.canWrite place then return d.putFile place content else .error .refused

/-- Removes a file. -/
def remove (d : Disk) (p : Path) : Except DiskFault Disk := do
  let place ← d.locate p
  match d.entry? place with
  | some (.file ..) =>
    if place.dropLast ∈ d.locked then .error .refused
    else return { d with entries := d.entries.filter (·.1 ≠ place) }
  | some .directory => .error .refused
  | none => .error .absent

/-! ## Making directories -/

/-- Makes a directory where there is nothing; slashes at the end of its path do not count. -/
def makeDirectory (d : Disk) (p : Path) : Except DiskFault Disk := do
  let place ← d.locateAlong p (p.segments.reverse.dropWhile (· = "")).reverse
  match d.entry? place with
  | some _ => .error .refused
  | none =>
    if place.dropLast ∈ d.locked then .error .refused
    else return { d with entries := putEntry place .directory d.entries }

/-- Makes a directory unless it is there. -/
def ensureDirectory (d : Disk) (p : Path) : Except DiskFault Disk :=
  match d.makeDirectory p with
  | .ok made => .ok made
  | .error fault => if d.isDirectory p then .ok d else .error fault

/-- Makes the directory of the first path; the paths behind it are those above it, the nearest
first, and are made before it where they are missing. -/
def ensureAlong (d : Disk) : List Path → Except DiskFault Unit × Disk
  | [] => (.ok (), d)
  | p :: above =>
    match d.ensureDirectory p with
    | .ok d => (.ok (), d)
    | .error .refused => (.error .refused, d)
    | .error .absent =>
      match d.ensureAlong above with
      | (.error fault, d) => (.error fault, d)
      | (.ok _, d) =>
        match d.ensureDirectory p with
        | .ok d => (.ok (), d)
        | .error fault => (.error fault, d)

/-- Makes a directory and those above it, as far as they are not there. -/
def makeDirectories (d : Disk) (p : Path) : Except DiskFault Unit × Disk :=
  match p.lineage with
  | [] => (.ok (), d)
  | _ :: above => d.ensureAlong (p :: above)

/-- Writes a file and makes the directories above it. -/
def writeDeep (d : Disk) (p : Path) (content : Bytes) : Except DiskFault Unit × Disk :=
  let (made, d) := match p.parent? with
    | some parent => d.makeDirectories parent
    | none => (.ok (), d)
  match made with
  | .error fault => (.error fault, d)
  | .ok _ =>
    match d.write p content with
    | .ok d => (.ok (), d)
    | .error fault => (.error fault, d)

/-! ## Listing -/

/-- Whether one list of names stands before another: at the first difference by the smaller
name, and before every longer list that it starts. -/
def namesBefore : Place → Place → Bool
  | [], _ => true
  | _ :: _, [] => false
  | a :: as, b :: bs => if a = b then namesBefore as bs else a < b

/-- Whether a listing of a directory shows what the names lead to: every path on the way leads to
a directory, and the last one does not. -/
def lists (d : Disk) (dir : Path) : Place → Bool
  | [] => false
  | [name] => !d.isDirectory (dir.join ⟨name⟩)
  | name :: rest => d.isDirectory (dir.join ⟨name⟩) && d.lists (dir.join ⟨name⟩) rest

/-- The names that lead from a directory at a place to the files below it, in order. -/
def filesBelow (d : Disk) (dir : Path) (place : Place) : List Place :=
  let below := d.entries.filterMap fun e =>
    if place.isPrefixOf e.1 && d.lists dir (e.1.drop place.length) then
      some (e.1.drop place.length)
    else none
  below.mergeSort namesBefore

/-- The paths of the files below a directory, none when there is no such directory. -/
def filesIn (d : Disk) (dir : Path) : List Path :=
  match d.locate dir with
  | .error _ => []
  | .ok place =>
    if d.isDirectoryAt place then
      (d.filesBelow dir place).map fun names => dir.join ⟨String.intercalate "/" names⟩
    else []

end Disk

end IccProfile
