import IccProfile.Json.Basic
import IccProfile.Json.Printer
import IccProfile.Text.Blank

/-!
# Device properties

The properties that a device reports or that a profile carries: names with values in
order, where a name may repeat. A property is also found under a longer name that
ends in a slash and the name that is looked for.
-/

set_option autoImplicit false

namespace IccProfile

/-- Named values in order. -/
structure Properties where
  entries : List (String × String)
deriving DecidableEq, Inhabited

namespace Properties

/-- No properties. -/
def empty : Properties := ⟨[]⟩

/-- Adds a property behind the others. -/
def push (p : Properties) (key value : String) : Properties := ⟨p.entries ++ [(key, value)]⟩

/-- Sets the first entry of a key, or adds one at the end. -/
def setEntry (key value : String) : List (String × String) → List (String × String)
  | [] => [(key, value)]
  | (k, v) :: rest =>
    if k = key then (key, value) :: rest else (k, v) :: setEntry key value rest

/-- Replaces the first property of a key, or adds one at the end. -/
def set (p : Properties) (key value : String) : Properties := ⟨setEntry key value p.entries⟩

/-- The first value of a key. -/
def get? (p : Properties) (key : String) : Option String :=
  (p.entries.find? (·.1 = key)).map (·.2)

/-- Whether a name is a key behind a slash. -/
def endsInKey (key name : String) : Bool :=
  ('/' :: key.toList).reverse.isPrefixOf name.toList.reverse

/-- The first value of a key, else the first under a name that ends in it. -/
def lookup (p : Properties) (key : String) : Option String :=
  (p.get? key).or ((p.entries.find? fun e => endsInKey key e.1).map (·.2))

/-- Whether there is a value for a key. -/
def contains (p : Properties) (key : String) : Bool := (p.get? key).isSome

/-- The number of properties. -/
def size (p : Properties) : Nat := p.entries.length

/-- The keys in order. -/
def keys (p : Properties) : List String := p.entries.map (·.1)

/-- The flags that mark a profile as made without measuring. -/
def autoGeneratedKeys : List String :=
  ["OPENICC_automatic_generated", "OYRANOS_automatic_generated", "automatic_generated"]

/-- Whether a flag for profiles made without measuring is set. -/
def isAutoGenerated (p : Properties) : Bool :=
  autoGeneratedKeys.any fun key => p.get? key = some "1"

/-! ## JSON -/

/-- Entries without those whose key was there before. -/
def firstOfEachKey (entries : List (String × String)) : List (String × String) :=
  entries.foldl
    (fun kept e => if kept.any (·.1 = e.1) then kept else kept ++ [e]) []

/-- A JSON object of the properties; a repeated key keeps its first value. -/
def toJson (p : Properties) : Json :=
  .object ((firstOfEachKey p.entries).map fun e => (e.1, .string e.2))

/-- The text of a value that holds no other value. -/
def scalarText? : Json → Option String
  | .string s => some s
  | .int n => some (String.ofList (Json.renderInt n))
  | .float x => some (String.ofList (Json.renderFloat x))
  | .bool b => some (if b then "true" else "false")
  | .null | .array _ | .object _ => none

/-- The text of a property: that of a scalar, or those of an array of scalars between commas. -/
def valueText? : Json → Option String
  | .array items => (items.mapM scalarText?).map (String.intercalate ",")
  | value => scalarText? value

/-- The properties of the members of an object; members without a text are left out. -/
def ofMembers (members : List (String × Json)) : Properties :=
  ⟨members.filterMap fun m => (valueText? m.2).map fun text => (m.1, text)⟩

end Properties

end IccProfile
