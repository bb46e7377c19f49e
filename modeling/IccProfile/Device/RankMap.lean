import IccProfile.Device.Properties
import IccProfile.Error

/-!
# Rank maps

A rank map says how many points a profile earns for each device property: when its
value matches, when it does not, and when it has none. There is one entry for each
key; a later one takes the place of the earlier.
-/

set_option autoImplicit false

namespace IccProfile

/-- The points for a property. -/
structure RankEntry where
  key : String
  onMatch : Int32
  onMismatch : Int32
  onMissing : Int32
deriving DecidableEq, Inhabited

/-- Points for properties, in order. -/
structure RankMap where
  entries : List RankEntry
deriving DecidableEq, Inhabited

namespace RankMap

/-- A map without entries. -/
def empty : RankMap := ⟨[]⟩

/-- Replaces the entry of the same key, or adds it at the end. -/
def setEntry (entry : RankEntry) : List RankEntry → List RankEntry
  | [] => [entry]
  | e :: rest => if e.key = entry.key then entry :: rest else e :: setEntry entry rest

/-- Adds an entry, in the place of an earlier one of the same key. -/
def append (m : RankMap) (entry : RankEntry) : RankMap := ⟨setEntry entry m.entries⟩

/-- The entry of a key. -/
def get? (m : RankMap) (key : String) : Option RankEntry := m.entries.find? (·.key = key)

/-- The number of entries. -/
def size (m : RankMap) : Nat := m.entries.length

/-- The map of entries added one after the other. -/
def ofEntries (entries : List RankEntry) : RankMap := entries.foldl append empty

/-- One point for each key that matches. -/
def counting (keys : List String) : RankMap := ofEntries (keys.map fun key => ⟨key, 1, 0, 0⟩)

/-! ## JSON -/

/-- The names from the root of a document to its device classes. -/
def path : List String := ["org", "freedesktop", "openicc", "rank_map"]

/-- A number of points, written as a number or in a string. -/
def points? : Json → Option Int32
  | .int n => Number.int32OfInt? n
  | .string s => Number.int32? (Text.trim s.toList)
  | _ => none

/-- The entry of a member of a rank map object. -/
def entryOf? (key : String) (value : Json) : Option RankEntry :=
  match value with
  | .array [a, b, c] => do
    let a ← points? a
    let b ← points? b
    let c ← points? c
    return ⟨key, a, b, c⟩
  | _ => none

/-- The entries of the members of a rank map object. -/
def entriesOf (members : List (String × Json)) : Except Error (List RankEntry) :=
  members.mapM fun (key, value) =>
    match entryOf? key value with
    | some entry => .ok entry
    | none => .error (.rankMap (.badPoints key))

/-- The rank map at a position of the first device class of a document. -/
def ofJson (root : Json) (position : Nat) : Except Error RankMap := do
  let some classes := (root.getPath? path).bind Json.members?
    | .error (.rankMap .missingRoot)
  let (className, list) :: _ := classes
    | .error (.rankMap .noClass)
  let some members := (list.items?.bind (·[position]?)).bind Json.members?
    | .error (.rankMap (.noEntry className position))
  let entries ← entriesOf members
  return ofEntries entries

/-- The rank map at a position of the first device class of a text. -/
def ofText (text : String) (position : Nat) : Except Error RankMap :=
  match Json.ofText? text with
  | some root => ofJson root position
  | none => .error .json

/-- The member of an entry. -/
def entryMember (entry : RankEntry) : String × Json :=
  (entry.key,
    .array [.int entry.onMatch.toInt, .int entry.onMismatch.toInt, .int entry.onMissing.toInt])

/-- The document of a rank map for a device class. -/
def toJson (m : RankMap) (className : String) : Json :=
  .wrap path
    (.object [(className, .array [.object (Json.collect (m.entries.map entryMember))])])

end RankMap

end IccProfile
