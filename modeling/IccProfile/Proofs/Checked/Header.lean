import IccProfile.Header.Basic
import IccProfile.Proofs.Checked.Basic
import IccProfile.Proofs.Header.Field
import IccProfile.Proofs.Identity

/-!
# Words, headers and identities with checks

Words are read byte by byte from a range that was looked up (`readWord?`) and written into
a range (`writeWord`). A header is a block of 128 bytes, so every field, the ID and the
parts of `Header` lie in it; an identity is computed from a byte string cut behind its
header. Each of these gives what the definition without checks gives.
-/

set_option autoImplicit false

namespace IccProfile.Checked

variable {bs : Bytes}

/-! ## Words -/

/-- The 32 bit word of four bytes. -/
def word (bs : Bytes) (i : Nat) : Checked UInt32 := do
  let a ← item bs i
  let b ← item bs (i + 1)
  let c ← item bs (i + 2)
  let d ← item bs (i + 3)
  return UInt32.ofNat (Bytes.toNat [a, b, c, d])

/-- The 16 bit word of two bytes. -/
def half (bs : Bytes) (i : Nat) : Checked UInt16 := do
  let a ← item bs i
  let b ← item bs (i + 1)
  return UInt16.ofNat (Bytes.toNat [a, b])

/-- The 32 bit word at an offset, when it is there. -/
def readWord? (bs : Bytes) (offset : Nat) : Checked (Option UInt32) :=
  match (add? offset 4).bind (get? bs offset) with
  | none => return none
  | some stored => return some (← word stored 0)

/-- The 16 bit word at an offset, when it is there. -/
def readHalf? (bs : Bytes) (offset : Nat) : Checked (Option UInt16) :=
  match (add? offset 2).bind (get? bs offset) with
  | none => return none
  | some stored => return some (← half stored 0)

/-- The bytes with a 32 bit word at an offset. -/
def writeWord (bs : Bytes) (offset : Nat) (value : UInt32) : Checked Bytes := do
  let stop ← add offset 4
  copy bs offset stop (Bytes.ofWord32 value)

/-- Four bytes that are there are read as their word. -/
theorem word_eq (bs : Bytes) (i : Nat) (h : i + 4 ≤ bs.length) :
    ∃ value, Bytes.u32At? bs i = some value ∧ word bs i = .ok value := by
  have hbytes : (bs.drop i).take 4 = [bs[i], bs[i + 1], bs[i + 2], bs[i + 3]] := by
    rw [List.drop_eq_getElem_cons (by omega), List.drop_eq_getElem_cons (by omega),
      List.drop_eq_getElem_cons (by omega), List.drop_eq_getElem_cons (by omega)]
    rfl
  refine ⟨UInt32.ofNat (Bytes.toNat [bs[i], bs[i + 1], bs[i + 2], bs[i + 3]]), ?_, ?_⟩
  · rw [Bytes.u32At?, Bytes.slice?, if_pos h, hbytes]
    rfl
  · rw [word, item_eq (by omega), item_eq (by omega), item_eq (by omega), item_eq (by omega)]
    rfl

/-- Two bytes that are there are read as their word. -/
theorem half_eq (bs : Bytes) (i : Nat) (h : i + 2 ≤ bs.length) :
    ∃ value, Bytes.u16At? bs i = some value ∧ half bs i = .ok value := by
  have hbytes : (bs.drop i).take 2 = [bs[i], bs[i + 1]] := by
    rw [List.drop_eq_getElem_cons (by omega), List.drop_eq_getElem_cons (by omega)]
    rfl
  refine ⟨UInt16.ofNat (Bytes.toNat [bs[i], bs[i + 1]]), ?_, ?_⟩
  · rw [Bytes.u16At?, Bytes.slice?, if_pos h, hbytes]
    rfl
  · rw [half, item_eq (by omega), item_eq (by omega)]
    rfl

theorem readWord?_eq (h : bs.length < 2 ^ 63) (offset : Nat) :
    readWord? bs offset = .ok (Bytes.u32At? bs offset) := by
  rw [readWord?, bind_get?_add? h, Bytes.u32At?]
  cases hstored : Bytes.slice? bs offset 4 with
  | none => rfl
  | some stored =>
      have hlength := Bytes.length_of_slice? hstored
      obtain ⟨value, hvalue, hword⟩ := word_eq stored 0 (by omega)
      rw [Bytes.u32At?, ← hlength, Bytes.slice?_self] at hvalue
      simp only [hword, ok_bind, pure_eq, hvalue]

theorem readHalf?_eq (h : bs.length < 2 ^ 63) (offset : Nat) :
    readHalf? bs offset = .ok (Bytes.u16At? bs offset) := by
  rw [readHalf?, bind_get?_add? h, Bytes.u16At?]
  cases hstored : Bytes.slice? bs offset 2 with
  | none => rfl
  | some stored =>
      have hlength := Bytes.length_of_slice? hstored
      obtain ⟨value, hvalue, hhalf⟩ := half_eq stored 0 (by omega)
      rw [Bytes.u16At?, ← hlength, Bytes.slice?_self] at hvalue
      simp only [hhalf, ok_bind, pure_eq, hvalue]

theorem writeWord_eq {offset : Nat} (hfit : offset + 4 ≤ bs.length) (h : bs.length < 2 ^ 63)
    (value : UInt32) :
    writeWord bs offset value = .ok (Bytes.patch bs offset (Bytes.ofWord32 value)) := by
  rw [writeWord, add_eq (by omega), ok_bind]
  exact copy_eq (by rw [Bytes.length_ofWord32]) (by rw [Bytes.length_ofWord32]; exact hfit)

/-! ## Color values and dates -/

/-- The color value of twelve bytes. -/
def xyz? (bs : Bytes) : Checked (Option Xyz) := do
  if bs.length < 12 then return none
  let x ← word bs 0
  let y ← word bs 4
  let z ← word bs 8
  return some ⟨.ofWord x, .ofWord y, .ofWord z⟩

/-- The date of twelve bytes. -/
def date? (bs : Bytes) : Checked (Option DateTime) := do
  if bs.length < 12 then return none
  let year ← half bs 0
  let month ← half bs 2
  let day ← half bs 4
  let hour ← half bs 6
  let minute ← half bs 8
  let second ← half bs 10
  return some ⟨year, month, day, hour, minute, second⟩

theorem xyz?_eq (h : bs.length = 12) : xyz? bs = .ok (Xyz.at? bs 0) := by
  obtain ⟨x, hx, hx'⟩ := word_eq bs 0 (by omega)
  obtain ⟨y, hy, hy'⟩ := word_eq bs 4 (by omega)
  obtain ⟨z, hz, hz'⟩ := word_eq bs 8 (by omega)
  simp [xyz?, h, Xyz.at?, hx, hx', hy, hy', hz, hz']

theorem date?_eq (h : bs.length = 12) : date? bs = .ok (DateTime.at? bs 0) := by
  obtain ⟨year, hyear, hyear'⟩ := half_eq bs 0 (by omega)
  obtain ⟨month, hmonth, hmonth'⟩ := half_eq bs 2 (by omega)
  obtain ⟨day, hday, hday'⟩ := half_eq bs 4 (by omega)
  obtain ⟨hour, hhour, hhour'⟩ := half_eq bs 6 (by omega)
  obtain ⟨minute, hminute, hminute'⟩ := half_eq bs 8 (by omega)
  obtain ⟨second, hsecond, hsecond'⟩ := half_eq bs 10 (by omega)
  simp [date?, h, DateTime.at?, hyear, hyear', hmonth, hmonth', hday, hday', hhour, hhour', hminute,
    hminute', hsecond, hsecond']

/-! ## Header fields -/

/-- The value of a field, zero when the block is too short to hold it. -/
def readField (f : HeaderField) (block : Bytes) : Checked UInt32 :=
  if f.width = 2 then return ((← readHalf? block f.offset).map UInt16.toUInt32).getD 0
  else return (← readWord? block f.offset).getD 0

/-- The block with a new value in a field. -/
def writeField (f : HeaderField) (block : Bytes) (value : UInt32) : Checked Bytes :=
  if f.width = 2 then do
    let stop ← add f.offset 2
    copy block f.offset stop (Bytes.ofWord16 value.toUInt16)
  else writeWord block f.offset value

theorem readField_eq (f : HeaderField) {block : Bytes} (h : block.length < 2 ^ 63) :
    readField f block = .ok (f.read block) := by
  unfold readField HeaderField.read
  rcases f.width_eq with hwidth | hwidth
  · rw [if_pos hwidth, readHalf?_eq h, Bytes.u16At?, hwidth]
    cases hstored : Bytes.slice? block f.offset 2 with
    | none => rfl
    | some stored =>
        have hlt := Bytes.toNat_lt stored
        rw [Bytes.length_of_slice? hstored] at hlt
        have hsame : (UInt16.ofNat (Bytes.toNat stored)).toUInt32 =
            UInt32.ofNat (Bytes.toNat stored) := by
          apply UInt32.toNat_inj.mp
          have hcapacity : Bytes.capacity 2 = 65536 := rfl
          simp
          omega
        exact congrArg Except.ok hsame
  · rw [if_neg (by omega), readWord?_eq h, Bytes.u32At?, hwidth]
    cases Bytes.slice? block f.offset 4 with
    | none => rfl
    | some stored => rfl

theorem ofWord16_toUInt16 (value : UInt32) :
    Bytes.ofWord16 value.toUInt16 = Bytes.ofNat 2 value.toNat := by
  have hone : Bytes.capacity 1 = 256 := rfl
  have hzero : Bytes.capacity 0 = 1 := rfl
  simp only [Bytes.ofWord16, Bytes.ofNat, hone, hzero, List.cons.injEq, and_true]
  constructor
  · apply UInt8.toNat_inj.mp
    simp
    omega
  · apply UInt8.toNat_inj.mp
    simp

theorem writeField_eq (f : HeaderField) {block : Bytes} (hfit : headerSize ≤ block.length)
    (h : block.length < 2 ^ 63) (value : UInt32) :
    writeField f block value = .ok (f.write block value) := by
  have hend := f.end_le_headerSize
  unfold writeField HeaderField.write
  rcases f.width_eq with hwidth | hwidth
  · rw [if_pos hwidth, add_eq (by omega), ok_bind, hwidth,
      ofWord16_toUInt16]
    rw [hwidth] at hend
    exact copy_eq (by rw [Bytes.length_ofNat]) (by rw [Bytes.length_ofNat]; omega)
  · rw [if_neg (by omega), writeWord_eq (by omega) h, hwidth]
    rfl

/-! ## Headers -/

/-- A block of 128 bytes with a copy of bytes that fill it. -/
def block (bs : Bytes) : Checked HeaderBlock :=
  if h : bs.length = headerSize then .ok ⟨bs, h⟩ else .error .length

/-- An ID with a copy of bytes that fill it. -/
def profileId (bs : Bytes) : Checked ProfileId :=
  if h : bs.length = 16 then .ok ⟨bs, h⟩ else .error .length

/-- Eight bytes with a copy of bytes that fill them. -/
def eight (bs : Bytes) : Checked Bytes := if bs.length = 8 then .ok bs else .error .length

/-- The 32 bit word at an offset, zero when it is not there. -/
def wordAt (bs : Bytes) (offset : Nat) : Checked UInt32 := do
  let value? ← readWord? bs offset
  return value?.getD 0

/-- Reads a header from the start of a byte string. -/
def header? (data : Bytes) : Checked (Except ContainerError Header) := do
  if data.length < headerSize then return .error (.tooSmall headerSize data.length)
  let magic ← wordAt data 36
  if magic ≠ Signature.magic then return .error (.badMagic magic)
  let attributes ← eight (← slice data 56 64)
  let id ← profileId (← slice data idOffset (idOffset + 16))
  let size ← wordAt data 0
  let cmm ← wordAt data 4
  let major ← item data 8
  let minorPatch ← item data 9
  let deviceClass ← wordAt data 12
  let colorSpace ← wordAt data 16
  let pcs ← wordAt data 20
  let created ← date? (← slice data 24 36)
  let platform ← wordAt data 40
  let flags ← wordAt data 44
  let manufacturer ← wordAt data 48
  let model ← wordAt data 52
  let intent ← wordAt data 64
  let illuminant ← xyz? (← slice data 68 80)
  let creator ← wordAt data 80
  return .ok {
    size, cmm, version := .ofBytes major minorPatch, deviceClass, colorSpace, pcs
    created := created.getD default
    magic, platform, flags, manufacturer, model
    attributes := UInt64.ofNat (Bytes.toNat attributes)
    intent
    illuminant := illuminant.getD default
    creator, id }

theorem wordAt_eq (h : bs.length < 2 ^ 63) (offset : Nat) :
    wordAt bs offset = .ok (Bytes.wordAt bs offset) := by
  rw [wordAt, readWord?_eq h]
  rfl

theorem profileId_eq (h : bs.length = 16) : profileId bs = .ok ⟨bs, h⟩ := dif_pos h

theorem xyz?_slice (bs : Bytes) (offset : Nat) (h : offset + 12 ≤ bs.length) :
    xyz? ((bs.drop offset).take 12) = .ok (Xyz.at? bs offset) := by
  have hpart := Bytes.slice?_of_le h
  have hword (i : Nat) (hi : i + 4 ≤ 12) :
      Bytes.u32At? ((bs.drop offset).take 12) i = Bytes.u32At? bs (offset + i) := by
    rw [Bytes.u32At?, Bytes.slice?_of_slice? hpart hi, Bytes.u32At?]
  rw [xyz?_eq (Bytes.length_of_slice? hpart), Xyz.at?, Xyz.at?, hword 0 (by decide),
    hword 4 (by decide), hword 8 (by decide), Nat.add_zero]

theorem date?_slice (bs : Bytes) (offset : Nat) (h : offset + 12 ≤ bs.length) :
    date? ((bs.drop offset).take 12) = .ok (DateTime.at? bs offset) := by
  have hpart := Bytes.slice?_of_le h
  have hhalf (i : Nat) (hi : i + 2 ≤ 12) :
      Bytes.u16At? ((bs.drop offset).take 12) i = Bytes.u16At? bs (offset + i) := by
    rw [Bytes.u16At?, Bytes.slice?_of_slice? hpart hi, Bytes.u16At?]
  rw [date?_eq (Bytes.length_of_slice? hpart), DateTime.at?, DateTime.at?, hhalf 0 (by decide),
    hhalf 2 (by decide), hhalf 4 (by decide), hhalf 6 (by decide), hhalf 8 (by decide),
    hhalf 10 (by decide), Nat.add_zero]

theorem header?_eq {data : Bytes} (h : data.length < 2 ^ 63) :
    header? data = .ok (Header.ofBytes? data) := by
  unfold header? Header.ofBytes?
  split
  · rfl
  · next hshort =>
      have hfit : 128 ≤ data.length := Nat.not_lt.mp hshort
      simp only [wordAt_eq h, ok_bind]
      split
      · rfl
      · have hstored : Bytes.slice? data idOffset 16 = some ((data.drop 84).take 16) :=
          Bytes.slice?_of_le (by simp only [idOffset]; omega)
        have hid := Bytes.length_of_slice? hstored
        have hattributes : ((data.drop 56).take 8).length = 8 := by
          simp
          omega
        have hprofileId : (ProfileId.stored? data).getD .zero = ⟨_, hid⟩ := by
          rw [ProfileId.stored?, hstored, Option.bind_some, ProfileId.ofBytes?, dif_pos hid]
          rfl
        simp only [idOffset, slice_eq data 56 64 (by decide) (by omega),
          slice_eq data 84 100 (by decide) (by omega),
          slice_eq data 24 36 (by decide) (by omega),
          slice_eq data 68 80 (by decide) (by omega),
          ok_bind, eight, hattributes, if_true, profileId_eq hid,
          item_eq_getD data 8 (by omega) 0,
          item_eq_getD data 9 (by omega) 0,
          date?_slice data 24 (by omega),
          xyz?_slice data 68 (by omega), hprofileId, pure_eq]

/-! ## Identities -/

/-- The identity of a byte string: its header is copied and cleared, and the digest is that of the
copy and the bytes behind the header. -/
def contentId (data : Bytes) : Checked ProfileId := do
  if data.length < headerSize then return Md5.digest data
  let header ← block (← slice data 0 headerSize)
  let cleared ← clear header.val 44 48
  let cleared ← clear cleared 64 68
  let cleared ← clear cleared idOffset (idOffset + 16)
  let rest ← slice data headerSize data.length
  return Md5.digest (cleared ++ rest)

/-- The ID of the header at the start of a byte string, unless it stands for none. -/
def embeddedId? (data : Bytes) : Checked (Option ProfileId) :=
  match get? data idOffset (idOffset + 16) with
  | none => return none
  | some stored => do
    let id ← profileId stored
    return if id.isZero then none else some id

/-- Whether a header holds an ID. -/
def hasId (header : HeaderBlock) : Checked Bool := do
  let stored ← slice header.val idOffset (idOffset + 16)
  return stored ≠ List.replicate 16 0

/-- Writes an ID into the header at the start of a byte string that can hold it. -/
def stamp (id : ProfileId) (data : Bytes) : Checked Bytes :=
  match get? data idOffset (idOffset + 16) with
  | none => return data
  | some _ => copy data idOffset (idOffset + 16) id.bytes

theorem block_eq (h : bs.length = headerSize) : block bs = .ok ⟨bs, h⟩ := dif_pos h

/-- A byte string that can hold a header is one, and the bytes behind it. -/
theorem exists_header_append {data : Bytes} (h : headerSize ≤ data.length) :
    ∃ (header : HeaderBlock) (rest : Bytes), data = header.val ++ rest :=
  ⟨⟨data.take headerSize, by rw [List.length_take, Nat.min_eq_left h]⟩, data.drop headerSize,
    (List.take_append_drop ..).symm⟩

theorem contentId_eq (data : Bytes) : contentId data = .ok (ProfileId.ofContent data) := by
  unfold contentId ProfileId.ofContent identifiedBytes
  split
  · rfl
  · next hshort =>
      obtain ⟨header, rest, rfl⟩ := exists_header_append (Nat.not_lt.mp hshort)
      have hlength : header.val.length = 128 := header.property
      have hfront : slice (header.val ++ rest) 0 headerSize = .ok header.val := by
        rw [slice_eq _ _ _ (Nat.zero_le _) (Nat.not_lt.mp hshort)]
        exact congrArg Except.ok (List.take_left' header.property)
      have hrest :
          slice (header.val ++ rest) headerSize (header.val ++ rest).length = .ok rest := by
        rw [slice_eq _ _ _ (Nat.not_lt.mp hshort) (Nat.le_refl _)]
        simp [headerSize, ← hlength]
      -- zeros for the flags, the intent and the ID
      have hflags : clear header.val 44 48 = .ok (header.write .flags 0).val :=
        clear_eq (by decide) (by omega)
      have hintent : clear (header.write .flags 0).val 64 68 =
          .ok ((header.write .flags 0).write .intent 0).val :=
        clear_eq (by decide) (by rw [HeaderBlock.val_write, HeaderField.length_write]; omega)
      have hid : clear ((header.write .flags 0).write .intent 0).val idOffset (idOffset + 16) =
          .ok (ProfileId.zero.stampHeader ((header.write .flags 0).write .intent 0)).val :=
        clear_eq (by decide) (by
          rw [HeaderBlock.val_write, HeaderBlock.val_write, HeaderField.length_write,
            HeaderField.length_write, hlength]
          decide)
      rw [HeaderBlock.write_append, HeaderBlock.write_append, ProfileId.stamp_append]
      simp only [hfront, block_eq header.property, hflags, hintent, hid, hrest, ok_bind, pure_eq]

theorem embeddedId?_eq (data : Bytes) : embeddedId? data = .ok (ProfileId.embedded? data) := by
  rw [embeddedId?, get?_eq_slice?, ProfileId.embedded?, ProfileId.stored?]
  cases hstored : Bytes.slice? data idOffset 16 with
  | none => rfl
  | some stored =>
      have hlength := Bytes.length_of_slice? hstored
      simp only [profileId_eq hlength, ok_bind, Option.bind_some, ProfileId.ofBytes?,
        dif_pos hlength, Option.filter_some, pure_eq]
      cases ProfileId.isZero ⟨stored, hlength⟩ <;> rfl

theorem hasId_eq (header : HeaderBlock) :
    hasId header = .ok (ProfileId.embedded? header.val).isSome := by
  have hstored : Bytes.slice? header.val idOffset 16 = some ((header.val.drop idOffset).take 16) :=
    Bytes.slice?_of_le (by rw [header.property]; decide)
  have hlength := Bytes.length_of_slice? hstored
  rw [hasId, slice, get?_eq_slice?, hstored, ProfileId.embedded?, ProfileId.stored?, hstored]
  generalize (header.val.drop idOffset).take 16 = stored at hlength
  have hzero : stored = List.replicate 16 0 ↔ ProfileId.isZero ⟨stored, hlength⟩ = true := by
    simp only [List.eq_replicate_iff, hlength, true_and, ProfileId.isZero, List.all_eq_true,
      decide_eq_true_eq]
  simp only [ok_bind, pure_eq, Option.bind_some, ProfileId.ofBytes?, dif_pos hlength,
    Option.filter_some, ne_eq, hzero]
  cases ProfileId.isZero ⟨stored, hlength⟩ <;> rfl

theorem stamp_eq (id : ProfileId) (data : Bytes) : stamp id data = .ok (id.stamp data) := by
  rw [stamp, get?_eq_slice?, ProfileId.stamp]
  cases hstored : Bytes.slice? data idOffset 16 with
  | none =>
      have hshort : ¬ idOffset + 16 ≤ data.length := by
        intro hfit
        rw [Bytes.slice?_of_le hfit] at hstored
        cases hstored
      rw [Bytes.patch, id.length_eq, if_neg hshort]
      rfl
  | some stored =>
      obtain ⟨hfit, -⟩ := Bytes.slice?_eq_some_iff.mp hstored
      exact copy_eq (by rw [id.length_eq]) (by rw [id.length_eq]; exact hfit)

end IccProfile.Checked
