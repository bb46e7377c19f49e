import IccProfile.Device.Basic
import IccProfile.Files.Path
import IccProfile.Header.Basic
import IccProfile.Identity
import IccProfile.Options
import IccProfile.Tag.Basic

/-!
# Profiles

A profile keeps the bytes it was read from, the header as it is now, and the list of
its tags. The tag list is read from the bytes when it is first needed; as long as
nothing was changed the bytes themselves are the written form. The header stands in
the tag list as a first pseudo tag, which is not among the visible tags.

`Profile.ofBytes` accepts a container by its length, its code, its declared length,
its tag table and its version, in this order.
-/

set_option autoImplicit false

namespace IccProfile

/-- A color profile. -/
structure Profile where
  fileName : Option Path := none
  /-- The bytes that the profile was read from. -/
  raw : Option Bytes := none
  header : Option HeaderBlock := none
  /-- The tag list with the pseudo tag of the header, once it was needed. -/
  tagList : Option (List Tag) := none
  /-- Whether a tag or header field was changed. -/
  modified : Bool := false
  /-- The identity, once it was asked for. -/
  knownId : Option ProfileId := none
  /-- The device that profiles are ranked for when this one is a pattern. -/
  metaFilter : Option Device := none
deriving DecidableEq, Inhabited

namespace Profile

/-- A profile without header and tags. -/
def empty : Profile := {}

/-! ## Reading -/

/-- The number of entries that a tag table declares. -/
def declaredTagCount (data : Bytes) : Nat := (Bytes.wordAt data headerSize).toNat

/-- Reads a profile whose version is asked for by the flags. -/
def ofBytesWith (flags : LoadFlags) (data : Bytes) : Except Error Profile := do
  if data.length < minProfileSize then
    .error (.container (.tooSmall minProfileSize data.length))
  let header ← (Header.ofBytes? data).mapError .container
  (header.validate data.length).mapError .container
  let count := declaredTagCount data
  if count * 12 + minProfileSize > data.length then
    .error (.container (.corrupted (.tagTable count data.length)))
  if !flags.accepts header.version.major then .error (.versionFiltered header.version.major)
  if h : (data.take headerSize).length = headerSize then
    return { raw := some data, header := some ⟨data.take headerSize, h⟩ }
  else .error (.container (.tooSmall minProfileSize data.length))

/-- Reads a profile of any version. -/
def ofBytes (data : Bytes) : Except Error Profile := ofBytesWith {} data

/-- The tags of the entries of a tag table from an index on. A table that ends early gives the
tags before its end. -/
def tagsFrom (data : Bytes) (preferred : Signature) : (count index : Nat) → List Tag
  | 0, _ => []
  | count + 1, index =>
    let entry := minProfileSize + index * 12
    match Bytes.u32At? data entry, Bytes.u32At? data (entry + 4), Bytes.u32At? data (entry + 8) with
    | some signature, some offset, some size =>
      Tag.ofContainer data signature offset size preferred
        :: tagsFrom data preferred count (index + 1)
    | _, _, _ => []

/-- The tag list read from the bytes, the pseudo tag of the header first. -/
def readTags (p : Profile) : List Tag :=
  match p.header with
  | none => []
  | some header =>
    let rest := match p.raw with
      | none => []
      | some data =>
        tagsFrom data (HeaderField.cmm.read header.val) (declaredTagCount data) 0
    Tag.ofHeader header :: rest

/-! ## Header -/

/-- The value of a header field, zero without a header. -/
def field (p : Profile) (f : HeaderField) : UInt32 :=
  match p.header with
  | some header => f.read header.val
  | none => 0

/-- The header in its parts, none without a header that carries the code `acsp`. -/
def headerParts? (p : Profile) : Option Header :=
  p.header.bind fun header => (Header.ofBytes? header.val).toOption

/-- The color space of the device. -/
def colorSpace? (p : Profile) : Option ColorSpace := ColorSpace.ofSignature? (p.field .colorSpace)

/-- The color space that connects profiles. -/
def pcs? (p : Profile) : Option ColorSpace := ColorSpace.ofSignature? (p.field .pcs)

/-- The class of the profile. -/
def profileClass? (p : Profile) : Option ProfileClass :=
  ProfileClass.ofSignature? (p.field .profileClass)

/-- The rendering intent. -/
def intent? (p : Profile) : Option RenderingIntent := RenderingIntent.ofNumber? (p.field .intent)

/-- The version in the header. -/
def version (p : Profile) : Version := Version.ofWord (p.field .version)

/-- The number of color channels, zero for an unknown color space. -/
def channelCount (p : Profile) : Nat :=
  match p.colorSpace? with
  | some space => space.channelCount
  | none => 0

/-- The names of the color channels, none for an unknown color space. -/
def channelNames (p : Profile) : List String :=
  match p.colorSpace? with
  | some space => space.channelNames
  | none => []

/-! ## Tags -/

/-- The tag list with the pseudo tag of the header. -/
def allTags (p : Profile) : List Tag := p.tagList.getD p.readTags

/-- The profile with its tag list read. -/
def materialized (p : Profile) : Profile := { p with tagList := some p.allTags }

/-- A tag list without a pseudo tag in the first place. -/
def withoutHeader : List Tag → List Tag
  | [] => []
  | first :: rest => if first.isHeader then rest else first :: rest

/-- The tags of the profile. -/
def tags (p : Profile) : List Tag := withoutHeader p.allTags

/-- The pseudo tag of the header. -/
def headerTag? (p : Profile) : Option Tag := p.allTags.head?.filter Tag.isHeader

/-- The first tag of a signature. -/
def tag? (p : Profile) (signature : Signature) : Option Tag :=
  p.tags.find? (·.signature = signature)

/-- The text of a tag that fits a locale best. -/
def textFor (p : Profile) (signature : Signature) (language country : String) : Option String :=
  match p.tag? signature with
  | some tag => if tag.isCorrupted then none else tag.data.textFor language country
  | none => none

/-- The text of a tag in American English. -/
def text (p : Profile) (signature : Signature) : Option String := p.textFor signature "en" "US"

/-- The description of the profile. -/
def description (p : Profile) : Option String := p.text Signature.description

/-- The maker of the device. -/
def maker (p : Profile) : Option String := p.text Signature.deviceMaker

/-- The model of the device. -/
def model (p : Profile) : Option String := p.text Signature.deviceModel

/-- The copyright text. -/
def copyright (p : Profile) : Option String := p.text Signature.copyright

/-- The media white point. -/
def whitePoint? (p : Profile) : Option Xyz := (p.tag? Signature.mediaWhite).bind Tag.xyz?

/-! ## Changes -/

/-- Notes a change: the bytes are no longer the written form. -/
def changed (p : Profile) : Profile := { p with modified := true, knownId := none }

/-- A tag list with the pseudo tag of a header in the first place. -/
def withHeader (header : HeaderBlock) : List Tag → List Tag
  | [] => [Tag.ofHeader header]
  | first :: rest =>
    if first.isHeader then Tag.ofHeader header :: rest else Tag.ofHeader header :: first :: rest

/-- Brings the pseudo tag in line with the header, once the tag list is there. -/
def syncHeaderTag (p : Profile) : Profile :=
  match p.header, p.tagList with
  | some header, some tags => { p with tagList := some (withHeader header tags) }
  | _, _ => p

/-- Sets a header field; the first one gives the profile a header of zeros. -/
def setField (p : Profile) (f : HeaderField) (value : UInt32) : Profile :=
  ({ p with header := some ((p.header.getD HeaderBlock.zero).write f value) }).syncHeaderTag.changed

/-- Replaces the tag list. -/
def setTags (p : Profile) (tags : List Tag) : Profile := ({ p with tagList := some tags }).changed

/-- Inserts a tag at a position among the visible tags, or behind them, in the place of those of
its signature. The pseudo tag is not a tag that can be added. -/
def addTag (p : Profile) (tag : Tag) (position : Option Nat) : Except Error Profile :=
  if tag.isHeader then .error (.invalidArgument .headerAsTag)
  else
    let kept := p.allTags.filter (·.signature ≠ tag.signature)
    let skip := if (kept.head?.any Tag.isHeader) then 1 else 0
    let index := match position with
      | none => kept.length
      | some position => min (position + skip) kept.length
    .ok (p.setTags (kept.insertIdx index tag))

/-- Removes the first tag of a signature, which it also gives. The header cannot be removed. -/
def removeTag (p : Profile) (signature : Signature) : Option Tag × Profile :=
  if signature = Signature.header then (none, p)
  else
    match p.tag? signature with
    | none => (none, p.materialized)
    | some tag => (some tag, p.setTags (p.allTags.eraseP (·.signature = signature)))

/-- The data that holds a text in a profile of this version: localized from version 4 on, before
it plain text for the copyright and a description for all else. -/
def textData (p : Profile) (signature : Signature) (text : String) : TagData :=
  if p.version.major ≥ 4 then .localized (LocalizedText.english text)
  else if signature = Signature.copyright then .text text
  else .description text

/-- Stores a text. -/
def addText (p : Profile) (signature : Signature) (text : String) : Except Error Profile :=
  match Tag.ofData? signature (p.textData signature text) with
  | some tag => p.addTag tag none
  | none => .error (.invalidArgument (.notEncodable signature))

/-! ## Profiles from parts -/

/-- A profile with a single header field. -/
def ofField (f : HeaderField) (value : UInt32) : Profile := empty.setField f value

/-- A pattern for the profiles of a color space. -/
def ofColorSpace (space : ColorSpace) : Profile := ofField .colorSpace space.signature

/-- A pattern for the profiles whose file name contains a text. -/
def ofFileName (name : Path) : Profile := { empty with fileName := some name }

end Profile

end IccProfile
