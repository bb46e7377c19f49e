import IccProfile.Header.Field
import IccProfile.Tag.Data

/-!
# Tags

A tag is an entry of a profile's tag list: its signature, the stored block and the
decoded data. Reading a tag never fails. A block that leaves the container or
cannot be decoded makes the tag corrupted, and the rest of the profile stays as it
is.
-/

set_option autoImplicit false

namespace IccProfile

/-- Whether the block of a tag could be read. -/
inductive TagStatus
  | ok
  | corrupted
deriving DecidableEq, Inhabited

/-- The color modules that a tag names. -/
structure ColorModules where
  /-- The preferred module of the profile. -/
  profile : Signature := 0
  /-- The module that handled the tag last. -/
  last : Signature := 0
  /-- The module that the tag needs, zero for any. -/
  required : Signature := 0
deriving DecidableEq, Inhabited

/-- An entry of a tag list. -/
structure Tag where
  signature : Signature
  type : Signature
  status : TagStatus
  /-- The stored bytes. -/
  block : Bytes
  /-- The place in the container that the tag was read from. -/
  offset : Option UInt32
  /-- The size given in the tag table. -/
  declaredSize : UInt32
  /-- The number of bytes that the decoder used. -/
  usedSize : Nat
  modules : ColorModules
  data : TagData
deriving DecidableEq, Inhabited

namespace Tag

/-- The tag of a stored block. -/
def ofBlock (signature : Signature) (block : Bytes) : Tag :=
  let type := Bytes.wordAt block 0
  let tag := fun status data used =>
    { signature, type, status, block, offset := none,
      declaredSize := UInt32.ofNat block.length, usedSize := used,
      modules := { last := Signature.decoder }, data : Tag }
  match TagData.decode block with
  | .ok (data, used) => tag .ok data used
  | .error _ => tag .corrupted (.other type) 0

/-- The tag of an entry of a tag table. A range outside the container gives a corrupted tag
with an empty block. -/
def ofContainer (container : Bytes) (signature : Signature) (offset size : UInt32)
    (preferred : Signature) : Tag :=
  let modules : ColorModules := { profile := preferred, last := Signature.decoder }
  match Bytes.slice? container offset.toNat size.toNat with
  | some block => { ofBlock signature block with offset := some offset, modules := modules }
  | none =>
    { signature, type := 0, status := .corrupted, block := [], offset := some offset,
      declaredSize := size, usedSize := 0, modules := modules, data := .other 0 }

/-- The tag of decoded data, none when the data has no written form. -/
def ofData? (signature : Signature) (data : TagData) : Option Tag :=
  data.encode?.map fun block =>
    { signature, type := data.type, status := .ok, block, offset := none,
      declaredSize := UInt32.ofNat block.length, usedSize := block.length, modules := {}, data }

/-- The pseudo tag that holds the header, first in the list of a profile with a header. -/
def ofHeader (header : HeaderBlock) : Tag :=
  { signature := Signature.header, type := Signature.header, status := .ok,
    block := header.val, offset := some 0, declaredSize := UInt32.ofNat headerSize,
    usedSize := headerSize,
    modules := { profile := HeaderField.cmm.read header.val, last := Signature.decoder },
    data := .other Signature.header }

/-- Whether a tag carries the signature of the pseudo tag. -/
def isHeader (tag : Tag) : Bool := tag.signature = Signature.header

/-- Whether the block could not be read. -/
def isCorrupted (tag : Tag) : Bool := tag.status = .corrupted

/-- The strings of a tag, none for a corrupted one. -/
def texts (tag : Tag) (language? country? : Option String) : List String :=
  if tag.isCorrupted then [] else tag.data.texts language? country?

/-- The first color value of a tag. -/
def xyz? (tag : Tag) : Option Xyz := tag.data.firstXyz?

end Tag

end IccProfile
