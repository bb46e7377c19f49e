import IccProfile.Fixed
import IccProfile.Tag.Text

/-!
# Number tags

The type `XYZ` holds color values and needs at least one; the type `sf32` holds
fixed point numbers, nine of which form the matrix of a chromatic adaptation. Bytes
behind the last whole value are not read.
-/

set_option autoImplicit false

namespace IccProfile

/-- The 32 bit words of a byte string, a shorter rest left out. -/
def wordsOfBytes (bs : Bytes) : List UInt32 :=
  (Bytes.chunks 4 bs).map fun b => UInt32.ofNat (Bytes.toNat b)

namespace Xyz

/-- The color values of a list of words, a shorter rest left out. -/
def ofWords : List UInt32 → List Xyz
  | x :: y :: z :: rest => ⟨.ofWord x, .ofWord y, .ofWord z⟩ :: ofWords rest
  | _ => []

/-- Reads an `XYZ` block. -/
def decodeAll (block : Bytes) : Except Defect (List Xyz × Nat) :=
  match ofWords (wordsOfBytes (block.drop 8)) with
  | [] => .error .xyzTooSmall
  | values => .ok (values, 8 + values.length * 12)

/-- Writes an `XYZ` block. -/
def encodeAll (values : List Xyz) : Bytes :=
  blockHead Signature.typeXyz ++ values.flatMap toBytes

end Xyz

namespace Fixed

/-- Reads an `sf32` block. -/
def decodeAll (block : Bytes) : Except Defect (List Fixed × Nat) :=
  if block.length < 8 then .error .fixedTooSmall
  else
    let values := (wordsOfBytes (block.drop 8)).map ofWord
    .ok (values, 8 + values.length * 4)

/-- Writes an `sf32` block. -/
def encodeAll (values : List Fixed) : Bytes :=
  blockHead Signature.typeFixed ++ values.flatMap toBytes

/-- The first nine numbers as the rows of a matrix. -/
def matrix? : List Fixed → Option (List (List Float))
  | a :: b :: c :: d :: e :: f :: g :: h :: i :: _ =>
    some [[a.toFloat, b.toFloat, c.toFloat], [d.toFloat, e.toFloat, f.toFloat],
      [g.toFloat, h.toFloat, i.toFloat]]
  | _ => none

end Fixed

end IccProfile
