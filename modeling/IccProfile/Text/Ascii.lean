import IccProfile.Text.Utf8

/-!
# Single byte text

Tag text of the older kinds holds one character per byte and ends at the first
zero byte. Reading takes every byte as the character of that number; writing
keeps ASCII and replaces each byte of a longer UTF-8 form by a question mark.
-/

set_option autoImplicit false

namespace IccProfile.Text

/-- The character of the number of a byte. -/
def charOfByte (b : UInt8) : Char := Char.ofNat b.toNat

/-- The characters before the first zero byte. -/
def ofBytes (bs : Bytes) : String :=
  String.ofList ((bs.takeWhile (· ≠ 0)).map charOfByte)

/-- An ASCII byte as it is, any other as a question mark. -/
def asciiByte (b : UInt8) : UInt8 := if b < 128 then b else 63

/-- The stored form of a text, one byte for each byte of its UTF-8 form. -/
def toAscii (s : String) : Bytes := (utf8 s).map asciiByte

/-- A language or country code: the first two bytes, zeros when there are fewer. -/
def code2 (s : String) : Bytes :=
  let bs := (utf8 s).take 2
  bs ++ List.replicate (2 - bs.length) 0

/-- Whether a text holds ASCII characters only. -/
def isAscii (s : String) : Bool := s.toList.all fun c => c.toNat < 128

theorem length_toAscii (s : String) : (toAscii s).length = (utf8 s).length := by
  simp [toAscii]

@[simp] theorem length_code2 (s : String) : (code2 s).length = 2 := by
  have h : ((utf8 s).take 2).length ≤ 2 := List.length_take_le ..
  simp only [code2, List.length_append, List.length_replicate]
  omega

end IccProfile.Text
