import IccProfile.Bytes

/-!
# UTF-16 text

Localized strings and dictionary entries are stored as 16 bit units, most
significant byte first. A stored string ends at the first zero unit. Reading
fails when the units before it hold a surrogate without its partner.
-/

set_option autoImplicit false

namespace IccProfile.Text

/-- The units of a character: one, or a surrogate pair above the basic plane. -/
def unitsOfChar (c : Char) : List UInt16 :=
  if c.toNat < 0x10000 then [UInt16.ofNat c.toNat]
  else
    [UInt16.ofNat (0xD800 + (c.toNat - 0x10000) / 0x400),
      UInt16.ofNat (0xDC00 + (c.toNat - 0x10000) % 0x400)]

/-- The first half of a surrogate pair. -/
def isHighSurrogate (u : UInt16) : Bool := 0xD800 ≤ u.toNat && u.toNat < 0xDC00

/-- The second half of a surrogate pair. -/
def isLowSurrogate (u : UInt16) : Bool := 0xDC00 ≤ u.toNat && u.toNat < 0xE000

/-- The character that a surrogate pair stands for. -/
def charOfPair (high low : UInt16) : Char :=
  Char.ofNat (0x10000 + (high.toNat - 0xD800) * 0x400 + (low.toNat - 0xDC00))

/-- The characters of a list of units, none when a surrogate has no partner. -/
def charsOfUnits? : List UInt16 → Option (List Char)
  | [] => some []
  | u :: rest =>
    if isLowSurrogate u then none
    else if isHighSurrogate u then
      match rest with
      | [] => none
      | v :: rest =>
        if isLowSurrogate v then (charsOfUnits? rest).map (charOfPair u v :: ·) else none
    else (charsOfUnits? rest).map (Char.ofNat u.toNat :: ·)

/-- The whole units of a byte string, an odd last byte left out. -/
def unitsOfBytes : Bytes → List UInt16
  | high :: low :: rest => UInt16.ofNat (high.toNat * 256 + low.toNat) :: unitsOfBytes rest
  | _ => []

/-- The stored form of a text. -/
def toUtf16 (s : String) : Bytes :=
  (s.toList.flatMap unitsOfChar).flatMap Bytes.ofWord16

/-- The text before the first zero unit, none when a surrogate has no partner. -/
def ofUtf16? (bs : Bytes) : Option String :=
  (charsOfUnits? ((unitsOfBytes bs).takeWhile (· ≠ 0))).map String.ofList

end IccProfile.Text
