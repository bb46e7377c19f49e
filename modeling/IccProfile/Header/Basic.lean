import IccProfile.Error
import IccProfile.Fixed
import IccProfile.Header.Field
import IccProfile.Header.Kind
import IccProfile.Header.Version
import IccProfile.ProfileId

/-!
# Profile headers

A header read into its parts. `Header.ofBytes?` accepts a block that is long
enough and carries the code `acsp`; `Header.toBytes` writes the parts back, with
zeros in the reserved bytes.
-/

set_option autoImplicit false

namespace IccProfile

/-- The parts of a profile header. -/
structure Header where
  /-- The length of the profile. -/
  size : UInt32
  /-- The preferred color module. -/
  cmm : Signature
  version : Version
  deviceClass : Signature
  colorSpace : Signature
  /-- The color space that connects profiles. -/
  pcs : Signature
  created : DateTime
  magic : Signature
  platform : Signature
  flags : UInt32
  manufacturer : Signature
  model : Signature
  attributes : UInt64
  intent : UInt32
  illuminant : Xyz
  creator : Signature
  /-- The stored profile ID, zeros for none. -/
  id : ProfileId
deriving DecidableEq, Inhabited

namespace Header

open Bytes (wordAt)

/-- Reads a header from the start of a byte string. -/
def ofBytes? (data : Bytes) : Except ContainerError Header :=
  if data.length < headerSize then .error (.tooSmall headerSize data.length)
  else if wordAt data 36 ≠ Signature.magic then .error (.badMagic (wordAt data 36))
  else
    .ok {
      size := wordAt data 0
      cmm := wordAt data 4
      version := .ofBytes (data.getD 8 0) (data.getD 9 0)
      deviceClass := wordAt data 12
      colorSpace := wordAt data 16
      pcs := wordAt data 20
      created := (DateTime.at? data 24).getD default
      magic := wordAt data 36
      platform := wordAt data 40
      flags := wordAt data 44
      manufacturer := wordAt data 48
      model := wordAt data 52
      attributes := UInt64.ofNat (Bytes.toNat ((data.drop 56).take 8))
      intent := wordAt data 64
      illuminant := (Xyz.at? data 68).getD default
      creator := wordAt data 80
      id := (ProfileId.stored? data).getD .zero }

/-- Checks a header against the length of the whole container. -/
def validate (h : Header) (length : Nat) : Except ContainerError Unit :=
  if h.magic ≠ Signature.magic then .error (.badMagic h.magic)
  else if h.size.toNat > length then .error (.sizeMismatch h.size length)
  else .ok ()

/-- The 128 bytes of a header, zeros in the reserved ones. -/
def toBytes (h : Header) : Bytes :=
  Bytes.ofWord32 h.size ++ Bytes.ofWord32 h.cmm
    ++ [h.version.major, h.version.minorPatch, 0, 0]
    ++ Bytes.ofWord32 h.deviceClass ++ Bytes.ofWord32 h.colorSpace ++ Bytes.ofWord32 h.pcs
    ++ h.created.toBytes ++ Bytes.ofWord32 h.magic ++ Bytes.ofWord32 h.platform
    ++ Bytes.ofWord32 h.flags ++ Bytes.ofWord32 h.manufacturer ++ Bytes.ofWord32 h.model
    ++ Bytes.ofWord64 h.attributes ++ Bytes.ofWord32 h.intent ++ h.illuminant.toBytes
    ++ Bytes.ofWord32 h.creator ++ h.id.bytes ++ List.replicate 28 0

/-- The class that the header names. -/
def profileClass? (h : Header) : Option ProfileClass :=
  ProfileClass.ofSignature? h.deviceClass

/-- The color space that the header names. -/
def colorSpace? (h : Header) : Option ColorSpace :=
  ColorSpace.ofSignature? h.colorSpace

/-- The connecting color space that the header names. -/
def pcs? (h : Header) : Option ColorSpace :=
  ColorSpace.ofSignature? h.pcs

/-- The rendering intent that the header names. -/
def intent? (h : Header) : Option RenderingIntent :=
  RenderingIntent.ofNumber? h.intent

end Header

end IccProfile
