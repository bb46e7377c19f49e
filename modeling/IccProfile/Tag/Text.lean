import IccProfile.Error

/-!
# Plain text tags

The types `text` and `desc` hold one ASCII string. The first fills its block, the
second counts its bytes and is followed by a Unicode and a script part, which are
written empty and never read.

A decoder takes the whole block, type code included, and gives the data with the
number of bytes it used.
-/

set_option autoImplicit false

namespace IccProfile

/-- The type code and the four reserved bytes at the start of a block. -/
def blockHead (type : Signature) : Bytes := Bytes.ofWord32 type ++ [0, 0, 0, 0]

namespace PlainText

/-- Reads a `text` block. -/
def decode (block : Bytes) : Except Defect (String × Nat) :=
  if block.length < 8 then .error .textTooSmall
  else
    let body := block.drop 8
    let text := Text.ofBytes body
    .ok (text, 8 + min (text.utf8ByteSize + 1) body.length)

/-- Writes a `text` block. -/
def encode (text : String) : Bytes :=
  blockHead Signature.typeText ++ Text.toAscii text ++ [0]

end PlainText

namespace DescriptionText

/-- The bytes behind the string: Unicode language and count, script code and count, and 67
bytes of script text. -/
def trailerSize : Nat := 78

/-- Reads the string of a `desc` block. -/
def decode (block : Bytes) : Except Defect (String × Nat) :=
  match Bytes.u32At? block 8 with
  | none => .error .descriptionTooSmall
  | some count =>
    match Bytes.slice? block 12 count.toNat with
    | none => .error .descriptionTruncated
    | some ascii => .ok (Text.ofBytes ascii, min (12 + count.toNat + trailerSize) block.length)

/-- Writes a `desc` block. -/
def encode (text : String) : Bytes :=
  let ascii := Text.toAscii text
  blockHead Signature.typeDescription ++ Bytes.ofSize (ascii.length + 1) ++ ascii ++ [0]
    ++ List.replicate trailerSize 0

end DescriptionText

end IccProfile
