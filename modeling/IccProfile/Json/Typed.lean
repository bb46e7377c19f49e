import IccProfile.Json.Basic

/-!
# Reading records

A record is read from an object or from an array. In an object each field may stand
once, and members of other names only have to be well formed. In an array the fields
stand in order.
-/

set_option autoImplicit false

namespace IccProfile.Json

/-- A truth value. -/
def asBool? : Document → Option Bool
  | .bool b => some b
  | _ => none

/-- A 32 bit integer. -/
def asInt32? : Document → Option Int32
  | .number text =>
    match numberValue? text with
    | some (.int n) => Number.int32OfInt? n
    | _ => none
  | _ => none

/-- A floating point number; an integer gives the nearest one. -/
def asFloat? : Document → Option Float
  | .number text =>
    match numberValue? text with
    | some (.int n) =>
      let x := Number.nearest n.natAbs 1
      some (if n < 0 then -x else x)
    | some (.float x) => some x
    | _ => none
  | _ => none

/-- A string. -/
def asString? : Document → Option String
  | .string parts => text? parts
  | _ => none

/-- The documents of the fields of an object: one for each name, none where it does not stand.
Fails when a name is not a text or one of the fields stands twice. -/
def fieldsOfMembers? (names : List String) :
    List (List StringPart × Document) → Option (List (Option Document))
  | [] => some (names.map fun _ => none)
  | (parts, item) :: rest => do
    let name ← text? parts
    let fields ← fieldsOfMembers? names rest
    let i := names.idxOf name
    if i < names.length then
      if (fields.getD i none).isSome then none
      else return fields.set i (some item)
    else return fields

/-- The documents of the fields of a record. An array may be shorter than the list of names. -/
def fields? (names : List String) : Document → Option (List (Option Document))
  | .object members => fieldsOfMembers? names members
  | .array items =>
    if items.length ≤ names.length then
      some (items.map some ++ List.replicate (names.length - items.length) none)
    else none
  | _ => none

/-- The value of a field that may be left out. -/
def optional? {α : Type} (read : Document → Option α) (default : α) :
    Option Document → Option α
  | none => some default
  | some item => read item

/-- The value of a field that has to be there. -/
def required? {α : Type} (read : Document → Option α) (field : Option Document) : Option α :=
  field.bind read

/-- The strings of an object, in the order in which they are written. -/
def strings? : Document → Option (List (String × String))
  | .object members => members.mapM fun (parts, item) => do
    let name ← text? parts
    let value ← asString? item
    return (name, value)
  | _ => none

end IccProfile.Json
