import IccProfile.Bytes

/-!
# Header fields

The 22 numbers of the header that can be read and written one by one. A field is a
range of two or four bytes of the 128 byte block; every field reads as a 32 bit
word, and writing one leaves all other bytes as they are.
-/

set_option autoImplicit false

namespace IccProfile

/-- The length of the header. -/
def headerSize : Nat := 128

/-- The shortest profile: a header and a count of tags. -/
def minProfileSize : Nat := 132

/-- The header of a profile as it is stored. -/
abbrev HeaderBlock := { block : Bytes // block.length = headerSize }

/-- A number of the header. -/
inductive HeaderField
  | colorSpace
  | pcs
  | size
  | cmm
  | version
  | profileClass
  | magic
  | platform
  | flags
  | manufacturer
  | model
  | intent
  | creator
  | year
  | month
  | day
  | hours
  | minutes
  | seconds
  | illuminantX
  | illuminantY
  | illuminantZ
deriving DecidableEq, Inhabited

namespace HeaderField

/-- All fields, in the order in which they are listed and compared. -/
def all : List HeaderField :=
  [.colorSpace, .pcs, .size, .cmm, .version, .profileClass, .magic, .platform, .flags,
    .manufacturer, .model, .intent, .creator, .year, .month, .day, .hours, .minutes, .seconds,
    .illuminantX, .illuminantY, .illuminantZ]

/-- The first byte of a field in the header. -/
def offset : HeaderField → Nat
  | .size => 0
  | .cmm => 4
  | .version => 8
  | .profileClass => 12
  | .colorSpace => 16
  | .pcs => 20
  | .year => 24
  | .month => 26
  | .day => 28
  | .hours => 30
  | .minutes => 32
  | .seconds => 34
  | .magic => 36
  | .platform => 40
  | .flags => 44
  | .manufacturer => 48
  | .model => 52
  | .intent => 64
  | .illuminantX => 68
  | .illuminantY => 72
  | .illuminantZ => 76
  | .creator => 80

/-- The number of bytes of a field: two for the parts of the date, else four. -/
def width : HeaderField → Nat
  | .year | .month | .day | .hours | .minutes | .seconds => 2
  | _ => 4

/-- The name of a field. -/
def name : HeaderField → String
  | .colorSpace => "ColorSpace"
  | .pcs => "Pcs"
  | .size => "Size"
  | .cmm => "Cmm"
  | .version => "Version"
  | .profileClass => "Class"
  | .magic => "Magic"
  | .platform => "Platform"
  | .flags => "Flags"
  | .manufacturer => "Manufacturer"
  | .model => "Model"
  | .intent => "Intent"
  | .creator => "Creator"
  | .year => "DateTimeYear"
  | .month => "DateTimeMonth"
  | .day => "DateTimeDay"
  | .hours => "DateTimeHours"
  | .minutes => "DateTimeMinutes"
  | .seconds => "DateTimeSeconds"
  | .illuminantX => "IlluminantX"
  | .illuminantY => "IlluminantY"
  | .illuminantZ => "IlluminantZ"

/-- The value of a field, zero when the block is too short to hold it. -/
def read (field : HeaderField) (block : Bytes) : UInt32 :=
  match Bytes.slice? block field.offset field.width with
  | some stored => UInt32.ofNat (Bytes.toNat stored)
  | none => 0

/-- The block with a new value in a field; a part of the date keeps the low 16 bits. -/
def write (field : HeaderField) (block : Bytes) (value : UInt32) : Bytes :=
  Bytes.patch block field.offset (Bytes.ofNat field.width value.toNat)

@[simp] theorem length_write (field : HeaderField) (block : Bytes) (value : UInt32) :
    (field.write block value).length = block.length := Bytes.length_patch ..

end HeaderField

namespace HeaderBlock

/-- A header of zeros. -/
def zero : HeaderBlock := ⟨List.replicate headerSize 0, by simp⟩

/-- The header with a new value in a field. -/
def write (field : HeaderField) (block : HeaderBlock) (value : UInt32) : HeaderBlock :=
  ⟨field.write block.val value, by simp [block.property]⟩

end HeaderBlock

end IccProfile
