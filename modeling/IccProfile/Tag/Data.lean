import IccProfile.Tag.Dictionary
import IccProfile.Tag.Numbers
import IccProfile.Tag.Sequence

/-!
# Tag data

The decoded content of a tag. The type code at the start of a block chooses the
decoder; a type without a decoder keeps its code only and has no written form.
-/

set_option autoImplicit false

namespace IccProfile

/-- The content of a tag. -/
inductive TagData
  | text (text : String)
  | description (text : String)
  | localized (text : LocalizedText)
  | dictionary (dictionary : Dictionary)
  | xyz (values : List Xyz)
  | fixed (values : List Fixed)
  | signature (code : Signature)
  | sequence (profiles : ProfileSequence)
  /-- A type without a decoder. -/
  | other (type : Signature)
deriving DecidableEq, Inhabited

namespace TagData

/-- Reads a `sig` block. -/
def decodeSignature (block : Bytes) : Except Defect (Signature × Nat) :=
  match Bytes.u32At? block 8 with
  | none => .error .signatureTooSmall
  | some code => .ok (code, 12)

/-- Reads the block of a type. -/
def decodeType (type : Signature) (block : Bytes) : Except Defect (TagData × Nat) :=
  if type = Signature.typeText then
    (PlainText.decode block).map fun r => (.text r.1, r.2)
  else if type = Signature.typeDescription then
    (DescriptionText.decode block).map fun r => (.description r.1, r.2)
  else if type = Signature.typeLocalized then
    (LocalizedText.decode block).map fun r => (.localized r.1, r.2)
  else if type = Signature.typeDictionary then
    (Dictionary.decode block).map fun r => (.dictionary r.1, r.2)
  else if type = Signature.typeXyz then
    (Xyz.decodeAll block).map fun r => (.xyz r.1, r.2)
  else if type = Signature.typeFixed then
    (Fixed.decodeAll block).map fun r => (.fixed r.1, r.2)
  else if type = Signature.typeSignature then
    (decodeSignature block).map fun r => (.signature r.1, r.2)
  else if type = Signature.typeSequence then
    (ProfileSequence.decode block).map fun r => (.sequence r.1, r.2)
  else .ok (.other type, block.length)

/-- Reads a block: its data and the number of bytes used. -/
def decode (block : Bytes) : Except Defect (TagData × Nat) :=
  match Bytes.u32At? block 0 with
  | none => .error .noTypeCode
  | some type => decodeType type block

/-- The written form, none for a type without a decoder. -/
def encode? : TagData → Option Bytes
  | .text s => some (PlainText.encode s)
  | .description s => some (DescriptionText.encode s)
  | .localized t => some t.encode
  | .dictionary d => some d.encode
  | .xyz values => some (Xyz.encodeAll values)
  | .fixed values => some (Fixed.encodeAll values)
  | .signature code => some (blockHead Signature.typeSignature ++ Bytes.ofWord32 code)
  | .sequence ps => some ps.encode
  | .other _ => none

/-- The type code of the data. -/
def type : TagData → Signature
  | .text _ => Signature.typeText
  | .description _ => Signature.typeDescription
  | .localized _ => Signature.typeLocalized
  | .dictionary _ => Signature.typeDictionary
  | .xyz _ => Signature.typeXyz
  | .fixed _ => Signature.typeFixed
  | .signature _ => Signature.typeSignature
  | .sequence _ => Signature.typeSequence
  | .other code => code

/-- The strings of the data. Numbers and types without a decoder have none. -/
def texts (language? country? : Option String) : TagData → List String
  | .text s => [s]
  | .description s => [s]
  | .localized t => t.select language? country?
  | .dictionary d => d.toFlat
  | .signature code => [Signature.text code]
  | .sequence ps => ps.toFlat
  | .xyz _ | .fixed _ | .other _ => []

/-- The single text that fits a locale best. -/
def textFor (language country : String) : TagData → Option String
  | .text s => some s
  | .description s => some s
  | .localized t => t.best language country
  | _ => none

/-- The first color value. -/
def firstXyz? : TagData → Option Xyz
  | .xyz values => values.head?
  | _ => none

/-- The pairs of a dictionary. -/
def dictionary? : TagData → Option Dictionary
  | .dictionary d => some d
  | _ => none

/-- The profiles of a sequence. -/
def sequence? : TagData → Option ProfileSequence
  | .sequence ps => some ps
  | _ => none

end TagData

end IccProfile
