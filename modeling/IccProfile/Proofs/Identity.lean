import IccProfile.Identity
import IccProfile.Proofs.Bytes

/-!
# Storing an identity

An ID is written into the header of a byte string by `ProfileId.stamp`. The later of
two IDs decides (`stamp_stamp`), the identity of the content does not see it
(`ofContent_stamp`), and it is found again unless it is the one that stands for none
(`embedded?_stamp`). The header of a stamped byte string is the stamped header
(`take_stamp`, `stamp_append`).

Byte strings that agree once their IDs are zeros agree outside the ID
(`getElem?_eq_of_stamp_eq`).
-/

set_option autoImplicit false

namespace IccProfile.ProfileId

variable {data : Bytes}

/-- The later of two stored IDs decides. -/
@[simp] theorem stamp_stamp (id other : ProfileId) (data : Bytes) :
    id.stamp (other.stamp data) = id.stamp data :=
  Bytes.patch_patch (by rw [id.length_eq, other.length_eq])

@[simp] theorem stampHeader_stampHeader (id other : ProfileId) (header : HeaderBlock) :
    id.stampHeader (other.stampHeader header) = id.stampHeader header :=
  Subtype.ext (stamp_stamp ..)

/-- A field that lies before the ID can be written before or after it. -/
theorem write_stamp {field : HeaderField} (hbefore : field.offset + field.width ≤ idOffset)
    (id : ProfileId) (data : Bytes) (value : UInt32) :
    field.write (id.stamp data) value = id.stamp (field.write data value) :=
  Bytes.patch_comm (.inr (by rw [Bytes.length_ofNat]; exact hbefore))

/-- Every field lies before the ID, so it can be set in a header before or after it. -/
theorem stampHeader_write (id : ProfileId) (header : HeaderBlock) (field : HeaderField)
    (value : UInt32) :
    id.stampHeader (header.write field value) = (id.stampHeader header).write field value := by
  have hbefore : field.offset + field.width ≤ idOffset := by
    cases field <;> decide
  exact Subtype.ext (write_stamp hbefore id header.val value).symm

/-- The identity of content with a header does not depend on the stored ID. -/
theorem ofContent_stamp (id : ProfileId) (h : headerSize ≤ data.length) :
    ofContent (id.stamp data) = ofContent data := by
  rw [ofContent, ofContent, identifiedBytes, identifiedBytes, length_stamp,
    if_neg (Nat.not_lt.mpr h), if_neg (Nat.not_lt.mpr h), write_stamp (by decide),
    write_stamp (by decide), stamp_stamp]

/-- The place of the ID holds the ID that was stored. -/
theorem slice?_stamp (id : ProfileId) (h : headerSize ≤ data.length) :
    Bytes.slice? (id.stamp data) idOffset 16 = some id.bytes := by
  have hheld : Bytes.HoldsAt (id.stamp data) idOffset id.bytes :=
    Bytes.holdsAt_patch (by rw [id.length_eq]; exact Nat.le_trans (by decide) h)
  exact hheld.slice? id.length_eq.symm

/-- A stored ID is read back. -/
theorem stored?_stamp (id : ProfileId) (h : headerSize ≤ data.length) :
    stored? (id.stamp data) = some id := by
  have hof : ofBytes? id.bytes = some id := dif_pos id.length_eq
  rw [stored?, slice?_stamp id h, Option.bind_some, hof]

/-- A stored ID is found unless it is the one that stands for none. -/
theorem embedded?_stamp (id : ProfileId) (h : headerSize ≤ data.length) :
    embedded? (id.stamp data) = if id.isZero then none else some id := by
  rw [embedded?, stored?_stamp id h, Option.filter_some]
  cases id.isZero <;> rfl

/-- The header of a stamped byte string is the stamped header. -/
theorem take_stamp (id : ProfileId) (h : headerSize ≤ data.length) :
    (id.stamp data).take headerSize = id.stamp (data.take headerSize) :=
  Bytes.take_patch (by rw [id.length_eq]; decide) h

/-- Stamping a byte string that starts with a header stamps the header. -/
theorem stamp_append (id : ProfileId) (header : HeaderBlock) (rest : Bytes) :
    id.stamp (header.val ++ rest) = (id.stampHeader header).val ++ rest :=
  Bytes.patch_append (by rw [id.length_eq, header.property]; decide)

/-- A stored ID changes no byte outside its place. -/
theorem getElem?_stamp (id : ProfileId) (data : Bytes) {i : Nat}
    (h : i < idOffset ∨ idOffset + 16 ≤ i) : (id.stamp data)[i]? = data[i]? := by
  rw [stamp, Bytes.getElem?_patch, id.length_eq, if_neg (by omega)]

/-- Two byte strings are alike but for the place of the ID. -/
structure AlikeOutside (a b : Bytes) : Prop where
  length_eq : b.length = a.length
  getElem?_eq : ∀ i, i < idOffset ∨ idOffset + 16 ≤ i → b[i]? = a[i]?

theorem alikeOutside_stamp (id : ProfileId) (data : Bytes) : AlikeOutside data (id.stamp data) :=
  ⟨length_stamp id data, fun _ h => getElem?_stamp id data h⟩

/-- Words outside the ID are those that were there before. -/
theorem wordAt_stamp (id : ProfileId) (data : Bytes) {offset : Nat}
    (h : offset + 4 ≤ idOffset ∨ idOffset + 16 ≤ offset) :
    Bytes.wordAt (id.stamp data) offset = Bytes.wordAt data offset := by
  rw [stamp, Bytes.wordAt_patch (by rw [id.length_eq]; exact h)]

/-- Byte strings that agree once they are stamped have one length. -/
theorem length_eq_of_stamp_eq {id : ProfileId} {a b : Bytes} (h : id.stamp a = id.stamp b) :
    a.length = b.length := by
  rw [← length_stamp id a, h, length_stamp]

/-- Byte strings that agree once they are stamped agree outside the ID. -/
theorem getElem?_eq_of_stamp_eq {id : ProfileId} {a b : Bytes} (h : id.stamp a = id.stamp b)
    {i : Nat} (hi : i < idOffset ∨ idOffset + 16 ≤ i) : a[i]? = b[i]? := by
  rw [← getElem?_stamp id a hi, h, getElem?_stamp id b hi]

end IccProfile.ProfileId
