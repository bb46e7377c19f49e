import IccProfile.Bytes

/-!
# Fixed point numbers, color values and dates

Numbers with a sign, 15 whole bits and 16 fraction bits, triples of them for
color values, and the six 16 bit parts of a date.
-/

set_option autoImplicit false

namespace IccProfile

/-- A number in steps of `1 / 65536`. -/
structure Fixed where
  /-- The number of steps. -/
  raw : Int32
deriving DecidableEq, Inhabited

namespace Fixed

/-- The nearest step, halves away from zero, held within the bounds of the format. -/
def ofFloat (x : Float) : Fixed := ⟨(x * 65536.0).round.toInt32⟩

/-- The value as a floating point number. -/
def toFloat (x : Fixed) : Float := x.raw.toFloat / 65536.0

/-- The number whose steps are the word read with a sign. -/
def ofWord (w : UInt32) : Fixed := ⟨w.toInt32⟩

/-- The stored word of a number. -/
def word (x : Fixed) : UInt32 := x.raw.toUInt32

/-- The four stored bytes of a number. -/
def toBytes (x : Fixed) : Bytes := Bytes.ofWord32 x.word

end Fixed

/-- A color value. -/
structure Xyz where
  x : Fixed
  y : Fixed
  z : Fixed
deriving DecidableEq, Inhabited

namespace Xyz

/-- The stored words at an offset, none when they are not all there. -/
def at? (bs : Bytes) (offset : Nat) : Option Xyz := do
  let x ← Bytes.u32At? bs offset
  let y ← Bytes.u32At? bs (offset + 4)
  let z ← Bytes.u32At? bs (offset + 8)
  return ⟨.ofWord x, .ofWord y, .ofWord z⟩

/-- The nearest stored color value. -/
def ofFloats (x y z : Float) : Xyz := ⟨.ofFloat x, .ofFloat y, .ofFloat z⟩

/-- The twelve stored bytes. -/
def toBytes (c : Xyz) : Bytes := c.x.toBytes ++ c.y.toBytes ++ c.z.toBytes

/-- The three parts as floating point numbers. -/
def toFloats (c : Xyz) : List Float := [c.x.toFloat, c.y.toFloat, c.z.toFloat]

end Xyz

/-- A date with the time of day. -/
structure DateTime where
  year : UInt16
  month : UInt16
  day : UInt16
  hour : UInt16
  minute : UInt16
  second : UInt16
deriving DecidableEq, Inhabited

namespace DateTime

/-- The stored parts at an offset, none when they are not all there. -/
def at? (bs : Bytes) (offset : Nat) : Option DateTime := do
  let year ← Bytes.u16At? bs offset
  let month ← Bytes.u16At? bs (offset + 2)
  let day ← Bytes.u16At? bs (offset + 4)
  let hour ← Bytes.u16At? bs (offset + 6)
  let minute ← Bytes.u16At? bs (offset + 8)
  let second ← Bytes.u16At? bs (offset + 10)
  return ⟨year, month, day, hour, minute, second⟩

/-- The six parts in stored order. -/
def parts (d : DateTime) : List UInt16 :=
  [d.year, d.month, d.day, d.hour, d.minute, d.second]

/-- The twelve stored bytes. -/
def toBytes (d : DateTime) : Bytes := d.parts.flatMap Bytes.ofWord16

end DateTime

end IccProfile
