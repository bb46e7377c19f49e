import IccProfile.Profile.Basic

/-!
# The written form

A profile that was not changed is written as the bytes it was read from. Any other is
written anew: the header, the tag table, and the blocks at multiples of four in the
order of the tags. Tags without bytes are left out. The identity of the result is
stored in it.
-/

set_option autoImplicit false

namespace IccProfile.Profile

/-- The tags that are written. -/
def writtenTags (p : Profile) : List Tag := p.tags.filter fun tag => !tag.block.isEmpty

/-- The entries of a tag table whose blocks start at the given offset. -/
def tableEntries (offset : Nat) : List Tag → Bytes
  | [] => []
  | tag :: rest =>
    Bytes.ofWord32 tag.signature ++ Bytes.ofSize offset ++ Bytes.ofSize tag.block.length
      ++ tableEntries (offset + Bytes.ceil4 tag.block.length) rest

/-- The header as it is written: without an ID, with the code, a version and the platform. -/
def writtenHeader (p : Profile) : HeaderBlock :=
  let header := ProfileId.zero.stampHeader (p.header.getD HeaderBlock.zero)
  let header := header.write .magic Signature.magic
  let header :=
    if HeaderField.version.read header.val = 0 then header.write .version Version.v43.word
    else header
  header.write .platform Signature.platform

/-- The first byte behind a tag table. -/
def tableEnd (count : Nat) : Nat := minProfileSize + count * 12

/-- Header, tag table and blocks, without an ID. -/
def serialize (p : Profile) : Bytes :=
  let tags := p.writtenTags
  let blocks := tags.flatMap fun tag => Bytes.pad4 tag.block
  let size := tableEnd tags.length + blocks.length
  (p.writtenHeader.write .size (UInt32.ofNat size)).val ++ Bytes.ofSize tags.length
    ++ tableEntries (tableEnd tags.length) tags ++ blocks

/-- The raw bytes of a profile that was not changed. -/
def unchangedBytes? (p : Profile) : Option Bytes := if p.modified then none else p.raw

/-- The written form. -/
def toBytes (p : Profile) : Bytes :=
  match p.unchangedBytes? with
  | some data => data
  | none =>
    let data := p.serialize
    (ProfileId.ofContent data).stamp data

/-- The identity computed from the content. -/
def computedId (p : Profile) : ProfileId :=
  match p.unchangedBytes? with
  | some data => ProfileId.ofContent data
  | none => ProfileId.ofContent p.serialize

/-- The ID in the header. -/
def embeddedId? (p : Profile) : Option ProfileId :=
  p.header.bind fun header => ProfileId.embedded? header.val

/-- Whether the header holds an ID. -/
def hasEmbeddedId (p : Profile) : Bool := p.embeddedId?.isSome

/-- The identity as it is found without looking at the remembered one: the ID of the header as
long as nothing was changed, else the computed one. -/
def freshId (p : Profile) : ProfileId :=
  match p.embeddedId? with
  | some id => if p.modified then p.computedId else id
  | none => p.computedId

/-- The identity of the profile. -/
def id (p : Profile) : ProfileId := p.knownId.getD p.freshId

/-- The stored ID compared with the computed one. -/
def checkId (p : Profile) : IdCheck := IdCheck.compare p.embeddedId? p.computedId

/-- The profile after the written form or the computed identity was asked for, which reads the
tag list unless the bytes serve. -/
def afterWriting (p : Profile) : Profile :=
  match p.unchangedBytes? with
  | some _ => p
  | none => p.materialized

/-- The profile after the identity was asked for, which is then remembered. -/
def afterId (p : Profile) : Profile :=
  match p.knownId with
  | some _ => p
  | none =>
    let q := if p.hasEmbeddedId && !p.modified then p else p.afterWriting
    { q with knownId := some p.freshId }

/-- The profile after the stored ID was checked. -/
def afterCheck (p : Profile) : Profile := if p.hasEmbeddedId then p.afterWriting else p

/-- Stores the computed identity in the header and in the raw bytes. -/
def repairId (p : Profile) : Profile :=
  let id := p.computedId
  let q := p.afterWriting
  { ({ q with
        header := q.header.map id.stampHeader
        raw := q.raw.map id.stamp }).syncHeaderTag with
    knownId := some id }

end IccProfile.Profile
