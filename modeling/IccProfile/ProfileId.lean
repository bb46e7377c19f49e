import IccProfile.Text.Ascii

/-!
# Profile identities

Sixteen bytes that stand for the content of a profile. Sixteen zeros mean that
there is no ID.
-/

set_option autoImplicit false

namespace IccProfile

/-- The first byte of the profile ID in a header. -/
def idOffset : Nat := 84

/-- The identity of a profile: sixteen bytes. -/
structure ProfileId where
  bytes : Bytes
  length_eq : bytes.length = 16
deriving DecidableEq

namespace ProfileId

/-- The ID that stands for none. -/
def zero : ProfileId := ⟨List.replicate 16 0, by simp⟩

instance : Inhabited ProfileId := ⟨zero⟩

/-- Whether an ID is the one that stands for none. -/
def isZero (id : ProfileId) : Bool := id.bytes.all (· = 0)

/-- The ID made of sixteen bytes. -/
def ofBytes? (bs : Bytes) : Option ProfileId :=
  if h : bs.length = 16 then some ⟨bs, h⟩ else none

/-- The ID stored in the header at the start of a byte string, zeros included. -/
def stored? (data : Bytes) : Option ProfileId :=
  (Bytes.slice? data idOffset 16).bind ofBytes?

/-- The ID of the header at the start of a byte string, unless it stands for none. -/
def embedded? (data : Bytes) : Option ProfileId :=
  (stored? data).filter fun id => !id.isZero

/-- Writes an ID into the header at the start of a byte string that can hold it. -/
def stamp (id : ProfileId) (data : Bytes) : Bytes := Bytes.patch data idOffset id.bytes

@[simp] theorem length_stamp (id : ProfileId) (data : Bytes) :
    (id.stamp data).length = data.length := Bytes.length_patch ..

/-- The four words of an ID. -/
def words (id : ProfileId) : List UInt32 :=
  (Bytes.chunks 4 id.bytes).map fun b => UInt32.ofNat (Bytes.toNat b)

/-- The 32 lower case digits of an ID. -/
def toHex (id : ProfileId) : String := Bytes.toHex id.bytes

/-- The byte of two digits; a plus sign may stand for the first. -/
def bytePair? (high low : Char) : Option UInt8 :=
  if high = '+' then (Bytes.hexValue? low).map UInt8.ofNat
  else do
    let h ← Bytes.hexValue? high
    let l ← Bytes.hexValue? low
    return UInt8.ofNat (h * 16 + l)

/-- The bytes of pairs of digits. -/
def bytePairs? : List Char → Option Bytes
  | [] => some []
  | [_] => none
  | high :: low :: rest => do
    let b ← bytePair? high low
    let bs ← bytePairs? rest
    return b :: bs

/-- The ID of 32 digits. -/
def ofHex? (s : String) : Option ProfileId :=
  (bytePairs? s.toList).bind ofBytes?

end ProfileId

end IccProfile
