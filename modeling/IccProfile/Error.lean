import IccProfile.Signature

/-!
# Causes of failure

Each failure is a value that says what was wrong; its wording is in one function
per type. `Defect` is a fault in the stored form of a tag or of the tag table,
`ContainerError` rejects a whole container, and `Error` is what an operation of
the library can fail with.
-/

set_option autoImplicit false

namespace IccProfile

/-- A fault in stored data. -/
inductive Defect
  | noTypeCode
  | textTooSmall
  | descriptionTooSmall
  | descriptionTruncated
  | localizedTooSmall
  | localizedRecordSize
  | dictionaryTooSmall
  | dictionaryRecordSize (size : Nat)
  | dictionaryTruncated (count : Nat)
  | dictionaryName (index : Nat)
  | dictionaryValue (index : Nat)
  | xyzTooSmall
  | fixedTooSmall
  | signatureTooSmall
  | sequenceTooSmall
  | sequenceTruncated (index : Nat)
  | sequenceEntry (index : Nat)
  | tagTable (count length : Nat)
  /-- A fault that the caller describes. -/
  | described (text : String)
deriving DecidableEq, Inhabited

/-- The wording of a fault. -/
def Defect.message : Defect → String
  | .noTypeCode => "Tag data too small for header"
  | .textTooSmall => "text tag too small"
  | .descriptionTooSmall => "Description tag too small"
  | .descriptionTruncated => "Description ASCII data truncated"
  | .localizedTooSmall => "mluc tag too small"
  | .localizedRecordSize => "mluc record size too small"
  | .dictionaryTooSmall => "dict tag too small"
  | .dictionaryRecordSize size =>
    "dict record size " ++ toString size ++ " not one of 16, 24, 32"
  | .dictionaryTruncated count => "dict with " ++ toString count ++ " records is truncated"
  | .dictionaryName index => "dict record " ++ toString index ++ " name out of bounds"
  | .dictionaryValue index => "dict record " ++ toString index ++ " value out of bounds"
  | .xyzTooSmall => "XYZ tag too small"
  | .fixedTooSmall => "sf32 tag too small"
  | .signatureTooSmall => "signature tag too small"
  | .sequenceTooSmall => "psid tag too small"
  | .sequenceTruncated index => "psid position table truncated at entry " ++ toString index
  | .sequenceEntry index => "psid entry " ++ toString index ++ " out of bounds"
  | .tagTable count length =>
    "tag table with " ++ toString count ++ " entries exceeds " ++ toString length ++ " bytes"
  | .described text => text

/-- Why bytes are not accepted as a profile. -/
inductive ContainerError
  | tooSmall (expected actual : Nat)
  | badMagic (found : Signature)
  | sizeMismatch (declared : UInt32) (actual : Nat)
  | tagOutOfBounds (tag offset size : UInt32) (profileSize : Nat)
  | corrupted (defect : Defect)
deriving DecidableEq, Inhabited

namespace ContainerError

/-- The wording of a rejected container. -/
def message : ContainerError → String
  | .tooSmall expected actual =>
    "Profile too small: expected " ++ toString expected ++ " bytes, got " ++ toString actual
  | .badMagic found =>
    "Invalid profile signature: '" ++ Signature.text found ++ "' (expected 'acsp')"
  | .sizeMismatch declared actual =>
    "Size mismatch: header says " ++ toString declared.toNat ++ " bytes, data is "
      ++ toString actual ++ " bytes"
  | .tagOutOfBounds tag offset size profileSize =>
    "Tag '" ++ Signature.text tag ++ "' out of bounds: offset " ++ toString offset.toNat
      ++ " + size " ++ toString size.toNat ++ " > profile size " ++ toString profileSize
  | .corrupted defect => "Corrupted data: " ++ defect.message

/-- Whether bytes were there but did not form a profile. -/
def isCorrupted : ContainerError → Bool
  | .tooSmall .. => false
  | _ => true

end ContainerError

/-- Input that an operation does not take. -/
inductive Refusal
  | emptyName
  | headerAsTag
  | notEncodable (signature : Signature)
  | propertiesNotEncodable
deriving DecidableEq, Inhabited

/-- The wording of refused input. -/
def Refusal.message : Refusal → String
  | .emptyName => "empty profile name"
  | .headerAsTag => "the header is not a regular tag"
  | .notEncodable signature => "cannot encode tag '" ++ Signature.text signature ++ "'"
  | .propertiesNotEncodable => "meta tag not encodable"

/-- Something that was looked for and is not there. -/
inductive Missing
  | deviceRoot
  | anyDeviceClass
  | deviceClass (name : String)
  | device (className : String) (position : Nat)
  | file (name : String)
deriving DecidableEq, Inhabited

/-- The wording of what is missing. -/
def Missing.message : Missing → String
  | .deviceRoot => "org/freedesktop/openicc/device"
  | .anyDeviceClass => "device class"
  | .deviceClass name => "device class '" ++ name ++ "'"
  | .device className position => "device " ++ className ++ "/[" ++ toString position ++ "]"
  | .file name => name

/-- Why a document is not a rank map. -/
inductive RankMapFault
  | missingRoot
  | noClass
  | noEntry (className : String) (position : Nat)
  | badPoints (key : String)
deriving DecidableEq, Inhabited

/-- The wording of a rank map fault. -/
def RankMapFault.message : RankMapFault → String
  | .missingRoot => "missing org/freedesktop/openicc/rank_map"
  | .noClass => "no device class in rank map"
  | .noEntry className position =>
    "no rank map " ++ className ++ "/[" ++ toString position ++ "]"
  | .badPoints key => "'" ++ key ++ "' needs [match, none_match, not_found]"

/-- What an operation of the library fails with. -/
inductive Error
  | invalidArgument (refusal : Refusal)
  | container (error : ContainerError)
  | notFound (missing : Missing)
  | versionFiltered (major : UInt8)
  | rankMap (fault : RankMapFault)
  /-- A text that is not the JSON that was asked for. -/
  | json
  /-- A file operation that failed. -/
  | io
deriving DecidableEq, Inhabited

/-- The wording of a failure. -/
def Error.message : Error → String
  | .invalidArgument refusal => "Invalid argument: " ++ refusal.message
  | .container error => error.message
  | .notFound missing => "Not found: " ++ missing.message
  | .versionFiltered major => "Profile version " ++ toString major.toNat ++ " filtered out"
  | .rankMap fault => "Rank map error: " ++ fault.message
  | .json => "JSON error"
  | .io => "I/O error"

end IccProfile
