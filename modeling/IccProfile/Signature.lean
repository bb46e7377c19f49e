import IccProfile.Text.Ascii
import IccProfile.Text.Blank

/-!
# Four character codes

Tags, tag types, color spaces and most header fields are named by codes of four
bytes. A code is kept as its 32 bit word, so unknown codes survive reading and
writing.
-/

set_option autoImplicit false

namespace IccProfile

/-- A code of four bytes as a 32 bit word. -/
abbrev Signature := UInt32

namespace Signature

/-- The character shown for a byte of a code: itself when printable, else a dot. -/
def shownChar (b : UInt8) : Char :=
  if 0x20 ≤ b ∧ b ≤ 0x7e then Char.ofNat b.toNat else '.'

/-- The four characters shown for a code. -/
def text (s : Signature) : String :=
  String.ofList ((Bytes.ofWord32 s).map shownChar)

/-- The code of at most four bytes, filled up with blanks. -/
def ofBytes (bs : Bytes) : Signature :=
  UInt32.ofNat (Bytes.toNat (bs ++ List.replicate (4 - bs.length) 0x20))

/-- The code of a text of one to four bytes. -/
def ofText? (s : String) : Option Signature :=
  let bs := Text.utf8 s
  if bs.isEmpty || bs.length > 4 then none else some (ofBytes bs)

/-- The code of a text of one to four ASCII characters, white space around it left out. -/
def ofAsciiText? (s : String) : Option Signature :=
  let t := Text.trimmed s
  if Text.isAscii t then ofText? t else none

/-! ## Tags -/

/-- The pseudo tag `head` that stands for the header in a tag list. -/
def header : Signature := 0x68656164

/-- The profile description, `desc`. -/
def description : Signature := 0x64657363

/-- The copyright text, `cprt`. -/
def copyright : Signature := 0x63707274

/-- The device model description, `dmdd`. -/
def deviceModel : Signature := 0x646d6464

/-- The device manufacturer description, `dmnd`. -/
def deviceMaker : Signature := 0x646d6e64

/-- The media white point, `wtpt`. -/
def mediaWhite : Signature := 0x77747074

/-- The dictionary of device properties, `meta`. -/
def deviceProperties : Signature := 0x6d657461

/-- The profiles that a device link was built from, `psid`. -/
def profileSequence : Signature := 0x70736964

/-! ## Tag types -/

/-- Single byte text, `text`. -/
def typeText : Signature := 0x74657874

/-- The description type of version 2, `desc`. -/
def typeDescription : Signature := 0x64657363

/-- Text in several languages, `mluc`. -/
def typeLocalized : Signature := 0x6d6c7563

/-- Pairs of names and values, `dict`. -/
def typeDictionary : Signature := 0x64696374

/-- Color values, `XYZ` and a blank. -/
def typeXyz : Signature := 0x58595a20

/-- Fixed point numbers, `sf32`. -/
def typeFixed : Signature := 0x73663332

/-- A single code, `sig` and a blank. -/
def typeSignature : Signature := 0x73696720

/-- Identified profiles, `psid`. -/
def typeSequence : Signature := 0x70736964

/-! ## Header values -/

/-- The code `acsp` that every profile header carries. -/
def magic : Signature := 0x61637370

/-- The platform code `*nix` of a written profile. -/
def platform : Signature := 0x2a6e6978

/-- The code `oxic` of the module that decodes tags here. -/
def decoder : Signature := 0x6f786963

end Signature

end IccProfile
