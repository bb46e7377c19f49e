import IccProfile.Tag.Text
import IccProfile.Text.Utf16

/-!
# Dictionary tags

The type `dict` holds pairs of names and values in order, names may repeat: a
count, a record size, records of name and value ranges, and the strings. Larger
records also point to display names, which are not read. One record that cannot be
read fails the whole block.
-/

set_option autoImplicit false

namespace IccProfile

/-- Pairs of names and values. -/
structure Dictionary where
  entries : List (String × String)
deriving DecidableEq, Inhabited

namespace Dictionary

/-- The value of the first entry of a name. -/
def get? (d : Dictionary) (name : String) : Option String :=
  (d.entries.find? (·.1 = name)).map (·.2)

/-- Names and values one after the other. -/
def toFlat (d : Dictionary) : List String := d.entries.flatMap fun e => [e.1, e.2]

/-- The bytes of a written record. -/
def recordSize : Nat := 16

/-- The string at a range of the block. -/
def string? (block : Bytes) (offset size : Nat) : Option String :=
  (Bytes.slice? block offset size).bind Text.ofUtf16?

/-- The entry of a record with the end of its strings. A value at offset zero is empty. -/
def decodeRecord (block : Bytes) (size index : Nat) :
    Except Defect ((String × String) × Nat) :=
  let record := 16 + index * size
  let nameOffset := (Bytes.wordAt block record).toNat
  let nameSize := (Bytes.wordAt block (record + 4)).toNat
  let valueOffset := (Bytes.wordAt block (record + 8)).toNat
  let valueSize := (Bytes.wordAt block (record + 12)).toNat
  let value? := if valueOffset = 0 then some "" else string? block valueOffset valueSize
  match string? block nameOffset nameSize, value? with
  | none, _ => .error (.dictionaryName index)
  | some _, none => .error (.dictionaryValue index)
  | some name, some value =>
    .ok ((name, value),
      max (Bytes.ceil4 (nameOffset + nameSize)) (Bytes.ceil4 (valueOffset + valueSize)))

/-- Reads a `dict` block. -/
def decode (block : Bytes) : Except Defect (Dictionary × Nat) :=
  match Bytes.u32At? block 8, Bytes.u32At? block 12 with
  | some count, some size =>
    let count := count.toNat
    let size := size.toNat
    if ¬(size = 16 ∨ size = 24 ∨ size = 32) then .error (.dictionaryRecordSize size)
    else if count * size + 16 > block.length then .error (.dictionaryTruncated count)
    else
      match (List.range count).mapM (decodeRecord block size) with
      | .error defect => .error defect
      | .ok records =>
        .ok (⟨records.map (·.1)⟩,
          min (records.foldl (fun used r => max used r.2) (count * size + 16)) block.length)
  | _, _ => .error .dictionaryTooSmall

/-- The stored strings of an entry. -/
def storedStrings (entry : String × String) : List Bytes :=
  [Text.toUtf16 entry.1, Text.toUtf16 entry.2]

/-- Writes a `dict` block. -/
def encode (d : Dictionary) : Bytes :=
  let strings := d.entries.flatMap storedStrings
  blockHead Signature.typeDictionary ++ Bytes.ofSize d.entries.length
    ++ Bytes.ofSize recordSize ++ Bytes.encodeRanges (16 + d.entries.length * recordSize) strings
    ++ strings.flatMap Bytes.pad4

end Dictionary

end IccProfile
