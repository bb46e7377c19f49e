import IccProfile.Proofs.Checked.Decoding
import IccProfile.Proofs.Tag.UsedBytes

/-!
# Tag blocks with checks

Numbers are read from pieces of one size, and a sequence of profiles from the ranges of a
table. With the texts these are all decoders, and `decodeData` chooses among them by the
type code as `TagData.decode` does. A tag of a container is decoded from the range that its
table gives.

A block in memory has fewer than `2 ^ 63` bytes, which is why the sums over its length stay
in a word. Nothing is asked of the bytes: `decodeData_eq` holds for every block and
`tagOfContainer_eq` for every offset and size.
-/

set_option autoImplicit false

namespace IccProfile.Checked

variable {block : Bytes}

/-! ## Numbers -/

/-- Reads an `XYZ` block. -/
def decodeXyz (block : Bytes) : Checked (Except Defect (List Xyz × Nat)) := do
  let body := (get? block 8 block.length).getD []
  let values := (← (Bytes.chunks 12 body).mapM xyz?).filterMap fun value? => value?
  if values.isEmpty then return .error .xyzTooSmall
  let used ← add 8 (← mul values.length 12)
  return .ok (values, used)

/-- Reads an `sf32` block. -/
def decodeFixed (block : Bytes) : Checked (Except Defect (List Fixed × Nat)) :=
  match get? block 8 block.length with
  | none => return .error .fixedTooSmall
  | some body => do
    let words ← (Bytes.chunks 4 body).mapM fun piece => word piece 0
    let values := words.map Fixed.ofWord
    let used ← add 8 (← mul values.length 4)
    return .ok (values, used)

/-- The bytes behind the head of a block. -/
theorem get?_body (block : Bytes) :
    get? block 8 block.length = if block.length < 8 then none else some (block.drop 8) := by
  unfold get?
  by_cases hshort : block.length < 8
  · rw [if_neg (by omega), if_pos hshort]
  · rw [if_pos ⟨by omega, Nat.le_refl _⟩, if_neg hshort]
    congr 1
    exact List.take_of_length_le (by simp)

/-- A piece of four bytes is read as its word. -/
theorem mapM_word_chunks (bs : Bytes) :
    ((Bytes.chunks 4 bs).mapM fun piece => word piece 0) = .ok (wordsOfBytes bs) := by
  apply mapM_eq
  intro piece hpiece
  have hlength := Bytes.length_of_mem_chunks (by decide) hpiece
  obtain ⟨value, hvalue, hword⟩ := word_eq piece 0 (by omega)
  rw [Bytes.u32At?, ← hlength, Bytes.slice?_self] at hvalue
  rw [hword]
  exact congrArg Except.ok (Option.some.inj hvalue).symm

/-- The words of three pieces of four bytes are those of a piece of twelve. -/
theorem wordsOfBytes_of_le {bs : Bytes} (h : 12 ≤ bs.length) :
    ∃ x y z, wordsOfBytes bs = x :: y :: z :: wordsOfBytes (bs.drop 12) ∧
      Xyz.at? (bs.take 12) 0 = some ⟨.ofWord x, .ofWord y, .ofWord z⟩ := by
  have hword (i : Nat) (hi : i + 4 ≤ 12) : Bytes.u32At? (bs.take 12) i =
      some (UInt32.ofNat (Bytes.toNat ((bs.drop i).take 4))) := by
    have hpart : Bytes.slice? bs 0 12 = some (bs.take 12) := Bytes.slice?_of_le (by omega)
    rw [Bytes.u32At?, Bytes.slice?_of_slice? hpart hi, Nat.zero_add, Bytes.slice?_of_le (by omega)]
    rfl
  refine ⟨_, _, _, ?_, by rw [Xyz.at?, hword 0 (by decide), hword 4 (by decide),
    hword 8 (by decide)]; rfl⟩
  rw [wordsOfBytes, Bytes.chunks_of_le (by decide) (by omega),
    Bytes.chunks_of_le (by decide) (by simp; omega),
    Bytes.chunks_of_le (by decide) (by simp; omega), List.drop_drop, List.drop_drop]
  rfl

theorem ofWords_wordsOfBytes (bs : Bytes) :
    Xyz.ofWords (wordsOfBytes bs) = (Bytes.chunks 12 bs).filterMap (Xyz.at? · 0) := by
  have hpos : 0 < 12 := by decide
  induction bs using Bytes.chunks_induction hpos with
  | hshort bs hlt =>
      have hlength : (wordsOfBytes bs).length < 3 := by
        rw [length_wordsOfBytes]
        omega
      rw [Bytes.chunks_of_lt hlt]
      match wordsOfBytes bs, hlength with
      | [], _ => rfl
      | [_], _ => rfl
      | [_, _], _ => rfl
  | hmore bs hle ih =>
      obtain ⟨x, y, z, hwords, hvalue⟩ := wordsOfBytes_of_le hle
      rw [hwords, Bytes.chunks_of_le (by decide) hle, Xyz.ofWords, List.filterMap_cons, hvalue, ih]

theorem decodeXyz_eq (h : block.length < 2 ^ 63) :
    decodeXyz block = .ok (Xyz.decodeAll block) := by
  have hbody : (get? block 8 block.length).getD [] = block.drop 8 := by
    rw [get?_body]
    split
    · exact (List.drop_eq_nil_of_le (by omega)).symm
    · rfl
  have hvalues : (Bytes.chunks 12 (block.drop 8)).mapM xyz? =
      .ok ((Bytes.chunks 12 (block.drop 8)).map (Xyz.at? · 0)) :=
    mapM_eq fun piece hpiece => xyz?_eq (Bytes.length_of_mem_chunks (by decide) hpiece)
  have hpresent : ((Bytes.chunks 12 (block.drop 8)).map (Xyz.at? · 0)).filterMap
      (fun value? => value?) = Xyz.ofWords (wordsOfBytes (block.drop 8)) := by
    rw [ofWords_wordsOfBytes, List.filterMap_map]
    rfl
  have hlength := Xyz.length_ofWords (wordsOfBytes (block.drop 8))
  rw [length_wordsOfBytes, List.length_drop] at hlength
  simp only [decodeXyz, hbody, hvalues, ok_bind, hpresent, Xyz.decodeAll]
  generalize Xyz.ofWords (wordsOfBytes (block.drop 8)) = values at hlength ⊢
  rw [mul_eq (by omega), ok_bind, add_eq (by omega), ok_bind]
  cases values with
  | nil => rfl
  | cons value rest => rfl

theorem decodeFixed_eq (h : block.length < 2 ^ 63) :
    decodeFixed block = .ok (Fixed.decodeAll block) := by
  unfold decodeFixed Fixed.decodeAll
  rw [get?_body]
  by_cases hshort : block.length < 8
  · simp only [hshort, if_true, pure_eq]
  · have hlength : ((wordsOfBytes (block.drop 8)).map Fixed.ofWord).length =
        (block.length - 8) / 4 := by
      rw [List.length_map, length_wordsOfBytes, List.length_drop]
    simp only [hshort, if_false, mapM_word_chunks, ok_bind]
    generalize (wordsOfBytes (block.drop 8)).map Fixed.ofWord = values at hlength ⊢
    rw [mul_eq (by omega), ok_bind, add_eq (by omega), ok_bind, pure_eq]

/-! ## Sequences of profiles -/

/-- Reads the description behind an ID. -/
def sequenceDescription (text : Bytes) : Checked (Except Defect LocalizedText) := do
  match ← readWord? text 0 with
  | none => return .ok ⟨[]⟩
  | some type =>
    if type = Signature.typeLocalized then return (← decodeLocalized text).map (·.1)
    else if type = Signature.typeDescription then
      return (← decodeDescription text).map fun r => LocalizedText.english r.1
    else return .ok ⟨[]⟩

/-- Reads the entries of a table from an index on, with the entries and the bytes used so far. -/
def sequenceFrom (block : Bytes) : (count index : Nat) → List SequenceEntry → Nat →
    Checked (Except Defect (List SequenceEntry × Nat))
  | 0, _, entries, used => return .ok (entries, used)
  | count + 1, index, entries, used => do
    let offset? ← readWord? block (← add 12 (← mul index 8))
    let size? ← readWord? block (← add 16 (← mul index 8))
    match offset?, size? with
    | some offset, some size =>
      let offset := offset.toNat
      let size := size.toNat
      let used := max used (← add 20 (← mul index 8))
      match (get? block offset (addUpTo offset size)).filter (24 ≤ ·.length) with
      | none => return .error (.sequenceEntry index)
      | some element =>
        let id ← profileId (← slice element 0 16)
        let text ← slice element 16 element.length
        match ← sequenceDescription text with
        | .error defect => return .error defect
        | .ok description =>
          let used := max used (← add offset size)
          sequenceFrom block count (index + 1) (entries ++ [⟨id, description⟩]) used
    | _, _ => return .error (.sequenceTruncated index)

/-- Reads a `psid` block. -/
def decodeSequence (block : Bytes) : Checked (Except Defect (ProfileSequence × Nat)) := do
  match ← readWord? block 8 with
  | none => return .error .sequenceTooSmall
  | some count => return (← sequenceFrom block count.toNat 0 [] 12).map fun r => (⟨r.1⟩, r.2)

theorem sequenceDescription_eq {text : Bytes} (h : text.length < 2 ^ 63) :
    sequenceDescription text = .ok (ProfileSequence.decodeDescription text) := by
  unfold sequenceDescription ProfileSequence.decodeDescription
  simp only [readWord?_eq h, ok_bind, decodeLocalized_eq h, decodeDescription_eq h, pure_eq]
  cases Bytes.u32At? text 0 with
  | none => rfl
  | some type =>
      simp only
      split
      · rfl
      · split <;> rfl

/-- The walk over the table gives the entries and the end that the table gives, or the first
fault. -/
theorem sequenceFrom_eq (h : block.length < 2 ^ 63) (count index : Nat)
    (hcount : index + count < 2 ^ 32) (entries : List SequenceEntry) (used : Nat) :
    sequenceFrom block count index entries used =
      .ok ((ProfileSequence.decodeFrom block count index used).map fun r =>
        (entries ++ r.1, r.2)) := by
  induction count generalizing index entries used with
  | zero => simp [sequenceFrom, ProfileSequence.decodeFrom, Except.map]
  | succ count ih =>
      have hnext := ih (index + 1) (by omega)
      rw [sequenceFrom, ProfileSequence.decodeFrom, mul_eq (by omega), ok_bind, add_eq (by omega),
        ok_bind, readWord?_eq h, ok_bind, ok_bind, add_eq (by omega), ok_bind, readWord?_eq h,
        ok_bind]
      cases Bytes.u32At? block (12 + index * 8) with
      | none => rfl
      | some offset =>
          cases Bytes.u32At? block (16 + index * 8) with
          | none => rfl
          | some size =>
              have hoffset := offset.toNat_lt
              have hsize := size.toNat_lt
              simp only [add_eq (a := 20) (b := index * 8) (by omega), ok_bind, get?_addUpTo h,
                ProfileSequence.element?]
              cases helement : (Bytes.slice? block offset.toNat size.toNat).filter
                  (24 ≤ ·.length) with
              | none => rfl
              | some element =>
                  obtain ⟨hstored, hlong⟩ := Option.filter_eq_some_iff.mp helement
                  have hlength := Bytes.length_of_slice? hstored
                  have hlong : 24 ≤ element.length := by simpa using hlong
                  have hid : (element.take 16).length = 16 := by
                    rw [List.length_take, Nat.min_eq_left (by omega)]
                  have htext : (element.drop 16).take (element.length - 16) = element.drop 16 :=
                    List.take_of_length_le (by simp)
                  have hrest : (element.drop 16).length < 2 ^ 63 := by
                    rw [List.length_drop]
                    omega
                  simp only [slice_eq element 0 16 (by decide) (by omega),
                    slice_eq element 16 element.length (by omega)
                      (Nat.le_refl _), List.drop_zero, Nat.sub_zero, htext, ok_bind,
                    profileId_eq hid, sequenceDescription_eq hrest,
                    add_eq (a := offset.toNat) (b := size.toNat) (by omega), hnext]
                  cases ProfileSequence.decodeDescription (element.drop 16) with
                  | error defect => rfl
                  | ok description =>
                      simp only [ProfileId.ofBytes?, dif_pos hid]
                      cases ProfileSequence.decodeFrom block count (index + 1)
                          (max (max used (20 + index * 8)) (offset.toNat + size.toNat)) with
                      | error defect => rfl
                      | ok rest => simp [Except.map, bind, Except.bind, pure, Except.pure]

theorem decodeSequence_eq (h : block.length < 2 ^ 63) :
    decodeSequence block = .ok (ProfileSequence.decode block) := by
  unfold decodeSequence ProfileSequence.decode
  rw [readWord?_eq h, ok_bind]
  cases Bytes.u32At? block 8 with
  | none => rfl
  | some count =>
      have hcount := count.toNat_lt
      simp only [sequenceFrom_eq h count.toNat 0 (by omega), List.nil_append, ok_bind, pure_eq]
      cases ProfileSequence.decodeFrom block count.toNat 0 12 <;> rfl

/-! ## All types -/

/-- Reads a `sig` block. -/
def decodeSignature (block : Bytes) : Checked (Except Defect (Signature × Nat)) := do
  match ← readWord? block 8 with
  | none => return .error .signatureTooSmall
  | some code => return .ok (code, 12)

/-- Reads the block of a type. -/
def decodeType (type : Signature) (block : Bytes) : Checked (Except Defect (TagData × Nat)) := do
  if type = Signature.typeText then
    return (← decodeText block).map fun r => (.text r.1, r.2)
  else if type = Signature.typeDescription then
    return (← decodeDescription block).map fun r => (.description r.1, r.2)
  else if type = Signature.typeLocalized then
    return (← decodeLocalized block).map fun r => (.localized r.1, r.2)
  else if type = Signature.typeDictionary then
    return (← decodeDictionary block).map fun r => (.dictionary r.1, r.2)
  else if type = Signature.typeXyz then
    return (← decodeXyz block).map fun r => (.xyz r.1, r.2)
  else if type = Signature.typeFixed then
    return (← decodeFixed block).map fun r => (.fixed r.1, r.2)
  else if type = Signature.typeSignature then
    return (← decodeSignature block).map fun r => (.signature r.1, r.2)
  else if type = Signature.typeSequence then
    return (← decodeSequence block).map fun r => (.sequence r.1, r.2)
  else return .ok (.other type, block.length)

/-- Reads a block. -/
def decodeData (block : Bytes) : Checked (Except Defect (TagData × Nat)) := do
  match ← readWord? block 0 with
  | none => return .error .noTypeCode
  | some type => decodeType type block

theorem decodeSignature_eq (h : block.length < 2 ^ 63) :
    decodeSignature block = .ok (TagData.decodeSignature block) := by
  rw [decodeSignature, readWord?_eq h, ok_bind, TagData.decodeSignature]
  cases Bytes.u32At? block 8 <;> rfl

/-- One case for each type code, in the order in which they are compared. -/
theorem decodeType_eq (h : block.length < 2 ^ 63) (type : Signature) :
    decodeType type block = .ok (TagData.decodeType type block) := by
  unfold decodeType TagData.decodeType
  simp only [decodeText_eq h, decodeDescription_eq h, decodeLocalized_eq h, decodeDictionary_eq h,
    decodeXyz_eq h, decodeFixed_eq h, decodeSignature_eq h, decodeSequence_eq h, ok_bind, pure_eq]
  repeat' split
  all_goals rfl

/-- Whatever a block in memory holds, its decoder leaves no word and no range. -/
theorem decodeData_eq (h : block.length < 2 ^ 63) :
    decodeData block = .ok (TagData.decode block) := by
  rw [decodeData, TagData.decode, readWord?_eq h, ok_bind]
  cases Bytes.u32At? block 0 with
  | none => rfl
  | some type => exact decodeType_eq h type

/-! ## Tags -/

/-- The tag of a stored block. -/
def tagOfBlock (signature : Signature) (block : Bytes) : Checked Tag := do
  let type ← wordAt block 0
  let tag := fun status data used =>
    { signature, type, status, block, offset := none,
      declaredSize := UInt32.ofNat block.length, usedSize := used,
      modules := { last := Signature.decoder }, data : Tag }
  match ← decodeData block with
  | .ok (data, used) => return tag .ok data used
  | .error _ => return tag .corrupted (.other type) 0

/-- The tag of an entry of a tag table. -/
def tagOfContainer (container : Bytes) (signature : Signature) (offset size : UInt32)
    (preferred : Signature) : Checked Tag :=
  let modules : ColorModules := { profile := preferred, last := Signature.decoder }
  match (add? offset.toNat size.toNat).bind (get? container offset.toNat) with
  | some block => do
    let tag ← tagOfBlock signature block
    return { tag with offset := some offset, modules := modules }
  | none =>
    return { signature, type := 0, status := .corrupted, block := [], offset := some offset,
             declaredSize := size, usedSize := 0, modules := modules, data := .other 0 }

theorem tagOfBlock_eq (h : block.length < 2 ^ 63) (signature : Signature) :
    tagOfBlock signature block = .ok (Tag.ofBlock signature block) := by
  rw [tagOfBlock, wordAt_eq h, ok_bind, decodeData_eq h, ok_bind, Tag.ofBlock]
  cases TagData.decode block with
  | error defect => rfl
  | ok r => rfl

theorem tagOfContainer_eq {container : Bytes} (h : container.length < 2 ^ 63)
    (signature : Signature) (offset size : UInt32) (preferred : Signature) :
    tagOfContainer container signature offset size preferred =
      .ok (Tag.ofContainer container signature offset size preferred) := by
  unfold tagOfContainer Tag.ofContainer
  rw [bind_get?_add? h]
  cases hblock : Bytes.slice? container offset.toNat size.toNat with
  | none => rfl
  | some block =>
      have hlength := Bytes.length_of_slice? hblock
      have hsize := size.toNat_lt
      have hheld : block.length < 2 ^ 63 := by omega
      simp only [tagOfBlock_eq hheld signature, ok_bind, pure_eq]

end IccProfile.Checked
