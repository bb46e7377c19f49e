import IccProfile.Catalog.SearchPaths
import IccProfile.Matching.Pattern
import IccProfile.Text.LowerCase

/-!
# Catalogs

A catalog knows where profiles are and keeps those that it has loaded. It works on a
disk, which loading may change: a profile of version 4 or later whose stored ID is
missing or wrong gets the computed one written into its file.

A cached profile is used again as long as its file has the time that it had when the
profile was loaded. Every load has a number, so two answers share a loaded profile
exactly when their numbers are equal.
-/

set_option autoImplicit false

namespace IccProfile

/-- A loaded profile. -/
structure Loaded where
  /-- The number of the load. -/
  number : Nat
  profile : Profile
deriving DecidableEq, Inhabited

/-- A cached profile with the time of its file. -/
structure CacheEntry where
  path : Path
  time : Option Nat
  loaded : Loaded
deriving DecidableEq, Inhabited

/-- Search paths, constants, cached profiles and known files. -/
structure Catalog where
  paths : SearchPaths
  policy : RankPolicy := {}
  cache : List CacheEntry := []
  /-- The list of profile files, once it was asked for. -/
  known : Option (List Path) := none
  /-- The number of loads so far. -/
  loads : Nat := 0

/-- A catalog and the disk that it works on. -/
structure Workspace where
  catalog : Catalog
  disk : Disk

namespace Profile

/-- Reads a profile file. Unless the flags forbid it, a missing or wrong ID of a profile of version
4 or later is written into the file; a write that fails changes nothing. -/
def load (d : Disk) (path : Path) (flags : LoadFlags) : Except Error Profile × Disk :=
  match d.read path with
  | .error _ => (.error .io, d)
  | .ok data =>
    match ofBytesWith flags data with
    | .error error => (.error error, d)
    | .ok profile =>
      let profile := { profile with fileName := some path }
      if flags.noRepair || profile.version.major < 4 || profile.checkId.isValid then
        (.ok profile, d)
      else
        let repaired := profile.repairId
        match d.write path repaired.toBytes with
        | .ok d => (.ok repaired, d)
        | .error _ => (.ok repaired, d)

end Profile

namespace Catalog

/-- The cached profile of a path. -/
def cached? (c : Catalog) (path : Path) : Option CacheEntry := c.cache.find? (·.path.same path)

/-- Keeps a profile in the place of an earlier one of its path. -/
def keep (c : Catalog) (entry : CacheEntry) : Catalog :=
  { c with cache := c.cache.filter (fun e => !e.path.same entry.path) ++ [entry] }

/-- Forgets the cached profiles and the known files. -/
def clear (c : Catalog) : Catalog := { c with cache := [], known := none }

/-- Whether the file of a cached profile is as it was when the profile was loaded. -/
def isFresh (entry : CacheEntry) (d : Disk) (path : Path) (flags : LoadFlags) : Bool :=
  flags.skipTimeCheck || entry.time = d.time? path

/-- The cached profile that serves for a path. -/
def hit? (c : Catalog) (d : Disk) (path : Path) (flags : LoadFlags) : Option Loaded :=
  if flags.noCacheRead then none
  else ((c.cached? path).filter fun entry => isFresh entry d path flags).map (·.loaded)

/-- The endings of profile files. -/
def extensions : List String := ["icc", "icm"]

/-- Whether a path ends like that of a profile, in either case. -/
def isProfilePath (path : Path) : Bool :=
  path.extension?.any fun ending =>
    extensions.contains (String.ofList (ending.toList.map Char.toLower))

/-- The profile files below a directory. -/
def profileFiles (d : Disk) (dir : Path) : List Path := (d.filesIn dir).filter isProfilePath

/-- Paths without those whose file name was there before. -/
def firstOfEachName (paths : List Path) : List Path :=
  paths.foldl
    (fun kept p => if kept.any fun q => q.fileName? = p.fileName? then kept else kept ++ [p]) []

/-- Whether the file name of a path is not behind that of another. -/
def nameNotAfter (p q : Path) : Bool :=
  match p.fileName?, q.fileName? with
  | none, _ => true
  | some _, none => false
  | some a, some b => ¬ b < a

/-- The profile files below the search paths, by file name; a name found earlier hides later
ones. -/
def findFiles (paths : SearchPaths) (d : Disk) : List Path :=
  (firstOfEachName (paths.dirs.flatMap (profileFiles d))).mergeSort nameNotAfter

end Catalog

namespace Workspace

/-- The file of a name. -/
def resolve? (w : Workspace) (name : Path) : Option Path := w.catalog.paths.resolve? w.disk name

/-- Loads a file, and keeps the profile unless the flags forbid it. -/
def load (w : Workspace) (path : Path) (flags : LoadFlags) : Except Error Loaded × Workspace :=
  match Profile.load w.disk path flags with
  | (.error error, disk) => (.error error, { w with disk })
  | (.ok profile, disk) =>
    let loaded : Loaded := ⟨w.catalog.loads, profile⟩
    let catalog := { w.catalog with loads := w.catalog.loads + 1 }
    let catalog :=
      if flags.noCacheWrite then catalog
      else catalog.keep { path, time := disk.time? path, loaded }
    (.ok loaded, { catalog, disk })

/-- The profile of a name, from the cache or from its file. -/
def openProfile (w : Workspace) (name : Path) (flags : LoadFlags) :
    Except Error Loaded × Workspace :=
  if name.text = "" then (.error (.invalidArgument .emptyName), w)
  else
    match w.resolve? name with
    | none => (.error (.notFound (.file name.text)), w)
    | some path =>
      match w.catalog.hit? w.disk path flags with
      | some loaded =>
        let major := loaded.profile.version.major
        if flags.accepts major then (.ok loaded, w) else (.error (.versionFiltered major), w)
      | none => w.load path flags

/-- The known profile files, which are looked for once. -/
def files (w : Workspace) : List Path × Workspace :=
  match w.catalog.known with
  | some files => (files, w)
  | none =>
    let files := Catalog.findFiles w.catalog.paths w.disk
    (files, { w with catalog := { w.catalog with known := some files } })

/-- Opens files one after the other; those that cannot be opened are left out. -/
def openAll (w : Workspace) (flags : LoadFlags) : List Path → List Loaded × Workspace
  | [] => ([], w)
  | path :: rest =>
    let (result, w) := w.openProfile path flags
    let (found, w) := w.openAll flags rest
    match result with
    | .ok loaded => (loaded :: found, w)
    | .error _ => (found, w)

/-- Whether a profile fits one of the patterns, or there are none. -/
def wanted (patterns : List Profile) (policy : RankPolicy) (profile : Profile) : Bool :=
  patterns.isEmpty || patterns.any fun pattern => Matching.patternMatches pattern profile policy

/-- Profiles without those whose identity was there before. -/
def firstOfEachId (found : List Loaded) : List Loaded :=
  found.foldl
    (fun kept l => if kept.any fun k => k.profile.id = l.profile.id then kept else kept ++ [l]) []

/-- The text by which profiles are ordered. -/
def orderKey (l : Loaded) : String := Text.lowerCase (l.profile.description.getD "")

/-- Profiles by description in lower case, equal ones in their order. -/
def byDescription (found : List Loaded) : List Loaded :=
  (found.map fun l => (orderKey l, l)).mergeSort (fun a b => ¬ b.1 < a.1) |>.map (·.2)

/-- The known profiles that fit one of the patterns, by description. -/
def profiles (w : Workspace) (patterns : List Profile) (flags : LoadFlags) :
    List Loaded × Workspace :=
  let (files, w) := w.files
  let (found, w) := w.openAll flags files
  let found := found.filter fun l => wanted patterns w.catalog.policy l.profile
  let found := if flags.allowDuplicates then found else firstOfEachId found
  (byDescription found, w)

/-- The first of the files whose profile has a property. -/
def findFirst (w : Workspace) (flags : LoadFlags) (test : Profile → Bool) :
    List Path → Option Loaded × Workspace
  | [] => (none, w)
  | path :: rest =>
    match w.openProfile path flags with
    | (.ok loaded, w) =>
      if test loaded.profile then (some loaded, w) else w.findFirst flags test rest
    | (.error _, w) => w.findFirst flags test rest

/-- The known profile of an identity. -/
def ofId (w : Workspace) (id : ProfileId) (flags : LoadFlags) : Option Loaded × Workspace :=
  let (files, w) := w.files
  w.findFirst flags (fun p => p.id = id) files

/-- The file that holds a profile: the one it remembers when it is there, else a known one of the
same identity. -/
def fileOf (w : Workspace) (profile : Profile) : Option Path × Workspace :=
  match profile.fileName.filter w.disk.isFile with
  | some own => (some own, w)
  | none =>
    let (found, w) := w.ofId profile.id {}
    (found.bind (·.profile.fileName), w)

/-- The file of a profile that a device link names, by its ID, or by its description when it has
none. -/
def fileOfEntry (w : Workspace) (entry : SequenceEntry) : Option Path × Workspace :=
  if entry.id.isZero then
    match entry.description.best "en" "US" with
    | none => (none, w)
    | some description =>
      let (files, w) := w.files
      let (found, w) := w.findFirst {} (fun p => p.description = some description) files
      (found.bind (·.profile.fileName), w)
  else
    let (found, w) := w.ofId entry.id {}
    (found.bind (·.profile.fileName), w)

/-- The file of the profile at a position of a device link. -/
def fileInSequence (w : Workspace) (link : Profile) (position : Nat) : Option Path × Workspace :=
  let entry? := do
    let tag ← link.tag? Signature.profileSequence
    let sequence ← tag.data.sequence?
    sequence.entries[position]?
  match entry? with
  | some entry => w.fileOfEntry entry
  | none => (none, w)

end Workspace

end IccProfile
