import IccProfile.ProfileId
import IccProfile.Tag.Localized

/-!
# Profile sequence tags

The type `psid` lists the profiles that a device link was built from: a count, a
table of ranges, and for each profile its ID followed by a description. One entry
that cannot be read fails the whole block.
-/

set_option autoImplicit false

namespace IccProfile

/-- A profile of a device link. -/
structure SequenceEntry where
  id : ProfileId
  description : LocalizedText
deriving DecidableEq, Inhabited

/-- The profiles of a device link. -/
structure ProfileSequence where
  entries : List SequenceEntry
deriving DecidableEq, Inhabited

namespace ProfileSequence

/-- Reads the description behind an ID: localized or plain, empty for any other type. -/
def decodeDescription (block : Bytes) : Except Defect LocalizedText :=
  match Bytes.u32At? block 0 with
  | none => .ok ⟨[]⟩
  | some type =>
    if type = Signature.typeLocalized then (LocalizedText.decode block).map (·.1)
    else if type = Signature.typeDescription then
      (DescriptionText.decode block).map fun r => LocalizedText.english r.1
    else .ok ⟨[]⟩

/-- The bytes of an element, which are an ID and at least the start of a description. -/
def element? (block : Bytes) (offset size : Nat) : Option Bytes :=
  (Bytes.slice? block offset size).filter fun element => 24 ≤ element.length

/-- Reads the entries of a table from an index on, with the bytes used so far. -/
def decodeFrom (block : Bytes) : (count index used : Nat) →
    Except Defect (List SequenceEntry × Nat)
  | 0, _, used => .ok ([], used)
  | count + 1, index, used =>
    match Bytes.u32At? block (12 + index * 8), Bytes.u32At? block (16 + index * 8) with
    | some offset, some size =>
      match element? block offset.toNat size.toNat with
      | none => .error (.sequenceEntry index)
      | some element => do
        let description ← decodeDescription (element.drop 16)
        let used := max (max used (20 + index * 8)) (offset.toNat + size.toNat)
        let (rest, used) ← decodeFrom block count (index + 1) used
        return (⟨(ProfileId.ofBytes? (element.take 16)).getD .zero, description⟩ :: rest, used)
    | _, _ => .error (.sequenceTruncated index)

/-- Reads a `psid` block. -/
def decode (block : Bytes) : Except Defect (ProfileSequence × Nat) :=
  match Bytes.u32At? block 8 with
  | none => .error .sequenceTooSmall
  | some count => (decodeFrom block count.toNat 0 12).map fun r => (⟨r.1⟩, r.2)

/-- The stored form of an entry. -/
def encodeEntry (entry : SequenceEntry) : Bytes := entry.id.bytes ++ entry.description.encode

/-- The elements, all but the last padded to a multiple of four. -/
def encodeElements : List Bytes → Bytes
  | [] => []
  | [element] => element
  | element :: rest => Bytes.pad4 element ++ encodeElements rest

/-- Writes a `psid` block. -/
def encode (s : ProfileSequence) : Bytes :=
  let elements := s.entries.map encodeEntry
  blockHead Signature.typeSequence ++ Bytes.ofSize s.entries.length
    ++ Bytes.encodeRanges (12 + s.entries.length * 8) elements ++ encodeElements elements

/-- The ID and the English description of each entry. -/
def toFlat (s : ProfileSequence) : List String :=
  s.entries.flatMap fun e => [e.id.toHex, (e.description.best "en" "US").getD ""]

end ProfileSequence

end IccProfile
