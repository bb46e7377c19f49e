import IccProfile.Proofs.Checked.Header
import IccProfile.Proofs.Tag.Localized
import IccProfile.Tag.Basic

/-!
# Texts and dictionaries with checks

The decoders of tag blocks take every count, size and offset from the block. Whatever they
are, no run leaves a word or a range: a record lies at most one product of two 32 bit words
behind the start, strings are looked up before they are read, and the ends of ranges are
sums of words that are far shorter than those of the machine.

A table is read by a walk that carries the entries and the bytes used so far. For each walk
one induction along the records (`localizedFrom_eq`, `dictionaryFrom_eq`) says that it gives
what the records give as a whole.
-/

set_option autoImplicit false

namespace IccProfile.Checked

variable {block : Bytes}

/-! ## Plain text -/

/-- Reads a `text` block. -/
def decodeText (block : Bytes) : Checked (Except Defect (String × Nat)) :=
  match get? block 8 block.length with
  | none => return .error .textTooSmall
  | some body => do
    let text := Text.ofBytes body
    let length ← add text.utf8ByteSize 1
    let used ← add 8 (min length body.length)
    return .ok (text, used)

/-- Reads the string of a `desc` block. -/
def decodeDescription (block : Bytes) : Checked (Except Defect (String × Nat)) := do
  match ← readWord? block 8 with
  | none => return .error .descriptionTooSmall
  | some count =>
    match get? block 12 (addUpTo 12 count.toNat) with
    | none => return .error .descriptionTruncated
    | some ascii =>
      let stop ← add 12 count.toNat
      let used ← add stop DescriptionText.trailerSize
      return .ok (Text.ofBytes ascii, min used block.length)

/-- A character of a single byte takes one or two bytes. -/
theorem utf8ByteSize_ofBytes_le (bs : Bytes) : (Text.ofBytes bs).utf8ByteSize ≤ 2 * bs.length := by
  have hchar (b : UInt8) : (Text.charOfByte b).utf8Size ≤ 2 := by
    have hall : ∀ n < 256, (Char.ofNat n).utf8Size ≤ 2 := by decide +kernel
    exact hall b.toNat b.toNat_lt
  have hchars (part : Bytes) :
      ((part.map Text.charOfByte).flatMap String.utf8EncodeChar).length ≤ 2 * part.length := by
    induction part with
    | nil => exact Nat.le_refl _
    | cons b rest ih =>
        have hfirst := hchar b
        simp only [List.map_cons, List.flatMap_cons, List.length_append, List.length_cons,
          String.length_utf8EncodeChar] at ih ⊢
        omega
  have hprefix := (List.takeWhile_prefix (p := (· ≠ (0 : UInt8))) (l := bs)).length_le
  have htext := hchars (bs.takeWhile (· ≠ 0))
  rw [Text.utf8ByteSize_eq, Text.utf8, Text.ofBytes, String.toList_ofList]
  omega

theorem decodeText_eq (h : block.length < 2 ^ 63) :
    decodeText block = .ok (PlainText.decode block) := by
  unfold decodeText PlainText.decode
  by_cases hshort : block.length < 8
  · rw [get?, if_neg (by omega), if_pos hshort]
    rfl
  · have hbody : (block.drop 8).take (block.length - 8) = block.drop 8 :=
      List.take_of_length_le (by simp)
    have hlength : (block.drop 8).length = block.length - 8 := List.length_drop
    have htext := utf8ByteSize_ofBytes_le (block.drop 8)
    rw [get?_eq (by omega) (Nat.le_refl _), if_neg hshort, hbody]
    simp only
    rw [add_eq (by omega), ok_bind, add_eq (by omega), ok_bind, pure_eq]

theorem decodeDescription_eq (h : block.length < 2 ^ 63) :
    decodeDescription block = .ok (DescriptionText.decode block) := by
  unfold decodeDescription DescriptionText.decode
  rw [readWord?_eq h, ok_bind]
  cases hcount : Bytes.u32At? block 8 with
  | none => rfl
  | some count =>
      have hlt : count.toNat < 4294967296 := count.toNat_lt
      simp only [get?_addUpTo h]
      cases Bytes.slice? block 12 count.toNat with
      | none => rfl
      | some ascii =>
          simp only [DescriptionText.trailerSize]
          rw [add_eq (by omega), ok_bind,
            add_eq (by omega), ok_bind, pure_eq]

/-! ## UTF-16 -/

/-- The text before the first zero unit, none when a surrogate has no partner. -/
def utf16? (bs : Bytes) : Checked (Option String) := do
  let units ← (Bytes.chunks 2 bs).mapM fun pair => half pair 0
  return (Text.charsOfUnits? (units.takeWhile (· ≠ 0))).map String.ofList

/-- The string at a range of a block. -/
def string? (block : Bytes) (offset size : Nat) : Checked (Option String) :=
  match (add? offset size).bind (get? block offset) with
  | none => return none
  | some stored => utf16? stored

theorem map_half_chunks (bs : Bytes) :
    (Bytes.chunks 2 bs).map (fun pair => (Bytes.u16At? pair 0).getD 0) = Text.unitsOfBytes bs := by
  fun_induction Text.unitsOfBytes bs with
  | case1 high low rest ih =>
      have hunit : (Bytes.u16At? [high, low] 0).getD 0 =
          UInt16.ofNat (high.toNat * 256 + low.toNat) := by
        simp [Bytes.u16At?, Bytes.slice?, Bytes.toNat]
      have hchunks : Bytes.chunks 2 (high :: low :: rest) = [high, low] :: Bytes.chunks 2 rest :=
        Bytes.chunks_of_le (by decide) (by simp)
      rw [hchunks, List.map_cons, hunit, ih]
  | case2 bs hshort =>
      rw [Bytes.chunks_of_lt]
      · rfl
      · cases bs with
        | nil => decide
        | cons high rest =>
            cases rest with
            | nil => simp
            | cons low rest => exact absurd rfl (hshort high low rest)

theorem utf16?_eq (bs : Bytes) : utf16? bs = .ok (Text.ofUtf16? bs) := by
  have hunits : ((Bytes.chunks 2 bs).mapM fun pair => half pair 0) =
      .ok ((Bytes.chunks 2 bs).map fun pair => (Bytes.u16At? pair 0).getD 0) := by
    apply mapM_eq
    intro pair hpair
    have hlength := Bytes.length_of_mem_chunks (by decide) hpair
    obtain ⟨value, hvalue, hhalf⟩ := half_eq pair 0 (by omega)
    rw [hhalf, hvalue, Option.getD_some]
  rw [utf16?, hunits, map_half_chunks, ok_bind, Text.ofUtf16?, pure_eq]

theorem string?_eq (h : block.length < 2 ^ 63) (offset size : Nat) :
    string? block offset size = .ok (Dictionary.string? block offset size) := by
  rw [string?, bind_get?_add? h, Dictionary.string?]
  cases Bytes.slice? block offset size with
  | none => rfl
  | some stored => exact utf16?_eq stored

/-! ## Localized text -/

/-- Reads the records of a table from an index on, with the entries and the bytes used so far. -/
def localizedFrom (block : Bytes) (size : Nat) :
    (count index : Nat) → List LocalizedString → Nat → Checked (List LocalizedString × Nat)
  | 0, _, entries, used => return (entries, used)
  | count + 1, index, entries, used => do
    let start ← add 16 (← mul index size)
    let stop ← add start LocalizedText.recordSize
    match get? block start stop with
    | none => return (entries, used)
    | some record =>
      let used := max used stop
      let language := Text.ofBytes (← slice record 0 2)
      let country := Text.ofBytes (← slice record 2 4)
      let length ← wordAt record 4
      let offset ← wordAt record 8
      match get? block offset.toNat (addUpTo offset.toNat length.toNat) with
      | none => localizedFrom block size count (index + 1) entries used
      | some stored =>
        let used := max used (← add offset.toNat length.toNat)
        match ← utf16? stored with
        | none => localizedFrom block size count (index + 1) entries used
        | some text =>
          localizedFrom block size count (index + 1) (entries ++ [⟨language, country, text⟩]) used

/-- Reads an `mluc` block. -/
def decodeLocalized (block : Bytes) : Checked (Except Defect (LocalizedText × Nat)) := do
  let count? ← readWord? block 8
  let size? ← readWord? block 12
  match count?, size? with
  | some count, some size =>
    if size.toNat < LocalizedText.recordSize then return .error .localizedRecordSize
    let (entries, used) ← localizedFrom block size.toNat count.toNat 0 [] 16
    return .ok (⟨entries⟩, used)
  | _, _ => return .error .localizedTooSmall

/-- The checked loop is the plain one. A record starts at most one product of two 32 bit words
behind the start. -/
theorem localizedFrom_eq (h : block.length < 2 ^ 63) {size : Nat} (hsize : size < 2 ^ 32)
    (count : Nat) (w : LocalizedText.Walk) (hcount : w.index + count ≤ 2 ^ 32 - 1) :
    localizedFrom block size count w.index w.entries w.used =
      .ok ((w.run block size count).1.entries, (w.run block size count).1.used) := by
  induction count generalizing w with
  | zero => rfl
  | succ count ih =>
      have hproduct : w.index * size ≤ (2 ^ 32 - 2) * (2 ^ 32 - 1) :=
        Nat.mul_le_mul (by omega) (by omega)
      rw [localizedFrom, mul_eq (by omega), ok_bind, add_eq (by omega), ok_bind,
        add_eq (by rw [LocalizedText.recordSize]; omega), ok_bind, get?_eq_slice?]
      cases hrecord : Bytes.slice? block (LocalizedText.place size w.index)
          LocalizedText.recordSize with
      | none =>
          have hslice : Bytes.slice? block (16 + w.index * size) LocalizedText.recordSize = none :=
            hrecord
          rw [hslice, LocalizedText.Walk.run_of_none hrecord]
          rfl
      | some record =>
          have hslice : Bytes.slice? block (16 + w.index * size) LocalizedText.recordSize =
              some record :=
            hrecord
          have hlength := Bytes.length_of_slice? hrecord
          rw [LocalizedText.recordSize] at hlength
          have hword : ∀ i, wordAt record i = .ok (Bytes.wordAt record i) :=
            wordAt_eq (by omega)
          have hstringLength := (Bytes.wordAt record 4).toNat_lt
          have hstringOffset := (Bytes.wordAt record 8).toNat_lt
          -- the checked loop goes on where the plain one does
          have hnext := ih (w.after block size record)
            (show w.index + 1 + count ≤ 2 ^ 32 - 1 by omega)
          rw [LocalizedText.Walk.run_of_some hrecord, ← hnext]
          simp only [hslice, slice_eq record 0 2 (by decide) (by omega),
            slice_eq record 2 4 (by decide) (by omega), hword, ok_bind, get?_addUpTo h]
          cases hstored : Bytes.slice? block (Bytes.wordAt record 8).toNat
              (Bytes.wordAt record 4).toNat with
          | none =>
              have hbytes : LocalizedText.stringBytes? block record = none := hstored
              have hentry : LocalizedText.entryOf? block record = none := by
                rw [LocalizedText.entryOf?, hbytes]
                rfl
              simp only [LocalizedText.Walk.after, hentry, LocalizedText.recordEnd, hbytes,
                LocalizedText.place, Option.toList_none, List.append_nil]
          | some stored =>
              have hbytes : LocalizedText.stringBytes? block record = some stored := hstored
              simp only [add_eq (a := (Bytes.wordAt record 8).toNat)
                (b := (Bytes.wordAt record 4).toNat) (by omega), ok_bind, utf16?_eq]
              cases htext : Text.ofUtf16? stored with
              | none =>
                  have hentry : LocalizedText.entryOf? block record = none := by
                    rw [LocalizedText.entryOf?, hbytes]
                    simp [htext]
                  simp only [LocalizedText.Walk.after, hentry, LocalizedText.recordEnd, hbytes,
                    LocalizedText.place, Option.toList_none, List.append_nil, Nat.max_assoc]
                  rfl
              | some text =>
                  have hentry : LocalizedText.entryOf? block record =
                      some ⟨Text.ofBytes (record.take 2), Text.ofBytes ((record.drop 2).take 2),
                        text⟩ := by
                    rw [LocalizedText.entryOf?, hbytes]
                    simp [htext]
                  simp only [LocalizedText.Walk.after, hentry, LocalizedText.recordEnd, hbytes,
                    LocalizedText.place, Option.toList_some, Nat.max_assoc]
                  rfl

theorem decodeLocalized_eq (h : block.length < 2 ^ 63) :
    decodeLocalized block = .ok (LocalizedText.decode block) := by
  unfold decodeLocalized LocalizedText.decode
  simp only [readWord?_eq h, ok_bind]
  cases hcount : Bytes.u32At? block 8 with
  | none => rfl
  | some count =>
      cases hsize : Bytes.u32At? block 12 with
      | none => rfl
      | some size =>
          have hcountLt := count.toNat_lt
          have hsizeLt := size.toNat_lt
          have hrecord : size.toNat < 2 ^ 32 := by omega
          have hstart : 0 + count.toNat ≤ 2 ^ 32 - 1 := by omega
          have hloop : localizedFrom block size.toNat count.toNat 0 [] 16 = _ :=
            localizedFrom_eq h hrecord count.toNat .start hstart
          simp only [hloop, ok_bind]
          split <;> rfl

/-! ## Dictionaries -/

/-- Reads the record of an index, with the end of its strings. -/
def dictionaryRecord (block : Bytes) (size index : Nat) :
    Checked (Except Defect ((String × String) × Nat)) := do
  let record ← add 16 (← mul index size)
  let field (n : Nat) : Checked Nat := do
    let offset ← add record (← mul n 4)
    return (← wordAt block offset).toNat
  let nameOffset ← field 0
  let nameSize ← field 1
  let valueOffset ← field 2
  let valueSize ← field 3
  match ← string? block nameOffset nameSize with
  | none => return .error (.dictionaryName index)
  | some name =>
    match ← (if valueOffset = 0 then pure (some "") else string? block valueOffset valueSize) with
    | none => return .error (.dictionaryValue index)
    | some value =>
      let nameEnd ← ceil4 (← add nameOffset nameSize)
      let valueEnd ← ceil4 (← add valueOffset valueSize)
      return .ok ((name, value), max nameEnd valueEnd)

/-- Reads the records of a table from an index on, with the entries and the bytes used so far. -/
def dictionaryFrom (block : Bytes) (size : Nat) : (count index : Nat) → List (String × String) →
    Nat → Checked (Except Defect (List (String × String) × Nat))
  | 0, _, entries, used => return .ok (entries, used)
  | count + 1, index, entries, used => do
    match ← dictionaryRecord block size index with
    | .error defect => return .error defect
    | .ok (entry, stop) =>
      dictionaryFrom block size count (index + 1) (entries ++ [entry]) (max used stop)

/-- Reads a `dict` block. -/
def decodeDictionary (block : Bytes) : Checked (Except Defect (Dictionary × Nat)) := do
  let count? ← readWord? block 8
  let size? ← readWord? block 12
  match count?, size? with
  | some count, some size =>
    let count := count.toNat
    let size := size.toNat
    if ¬(size = 16 ∨ size = 24 ∨ size = 32) then return .error (.dictionaryRecordSize size)
    match ((mul? count size).bind (add? · 16)).filter (· ≤ block.length) with
    | none => return .error (.dictionaryTruncated count)
    | some stop =>
      match ← dictionaryFrom block size count 0 [] stop with
      | .error defect => return .error defect
      | .ok (entries, used) => return .ok (⟨entries⟩, min used block.length)
  | _, _ => return .error .dictionaryTooSmall

section Dictionary

variable (h : block.length < 2 ^ 63) {size : Nat} (hsize : size ≤ 32)
include h hsize

theorem dictionaryRecord_eq {index : Nat} (hindex : index < 2 ^ 32) :
    dictionaryRecord block size index = .ok (Dictionary.decodeRecord block size index) := by
  have hproduct : index * size ≤ 2 ^ 32 * 32 := Nat.mul_le_mul (by omega) hsize
  -- the four words of the record
  have hfield (n : Nat) (hn : n ≤ 3) : (do
      let offset ← add (16 + index * size) (← mul n 4)
      return (← wordAt block offset).toNat : Checked Nat) =
        .ok (Bytes.wordAt block (16 + index * size + n * 4)).toNat := by
    rw [mul_eq (by omega), ok_bind, add_eq (by omega), ok_bind, wordAt_eq h, ok_bind, pure_eq]
  have hnameOffset := (Bytes.wordAt block (16 + index * size)).toNat_lt
  have hnameSize := (Bytes.wordAt block (16 + index * size + 4)).toNat_lt
  have hvalueOffset := (Bytes.wordAt block (16 + index * size + 8)).toNat_lt
  have hvalueSize := (Bytes.wordAt block (16 + index * size + 12)).toNat_lt
  rw [dictionaryRecord, Dictionary.decodeRecord, mul_eq (by omega), ok_bind, add_eq (by omega),
    ok_bind]
  simp only [hfield 0 (by decide), hfield 1 (by decide), hfield 2 (by decide),
    hfield 3 (by decide), ok_bind, Nat.zero_mul, Nat.one_mul, Nat.add_zero, string?_eq h,
    Nat.reduceMul]
  generalize (Bytes.wordAt block (16 + index * size)).toNat = nameOffset at *
  generalize (Bytes.wordAt block (16 + index * size + 4)).toNat = nameSize at *
  generalize (Bytes.wordAt block (16 + index * size + 8)).toNat = valueOffset at *
  generalize (Bytes.wordAt block (16 + index * size + 12)).toNat = valueSize at *
  cases Dictionary.string? block nameOffset nameSize with
  | none => rfl
  | some name =>
      have hvalue : (if valueOffset = 0 then (pure (some "") : Checked (Option String))
          else .ok (Dictionary.string? block valueOffset valueSize)) =
            .ok (if valueOffset = 0 then some ""
              else Dictionary.string? block valueOffset valueSize) := by
        split <;> rfl
      simp only [hvalue, ok_bind, add_eq (a := nameOffset) (b := nameSize) (by omega),
        add_eq (a := valueOffset) (b := valueSize) (by omega),
        ceil4_eq (n := nameOffset + nameSize) (by omega),
        ceil4_eq (n := valueOffset + valueSize) (by omega)]
      cases (if valueOffset = 0 then some ""
          else Dictionary.string? block valueOffset valueSize) with
      | none => rfl
      | some value => rfl

/-- The walk over the records gives the entries and the end that the records give, or the first
fault. -/
theorem dictionaryFrom_eq (count index : Nat) (hcount : index + count < 2 ^ 32)
    (entries : List (String × String)) (used : Nat) :
    dictionaryFrom block size count index entries used =
      .ok (((List.range' index count).mapM (Dictionary.decodeRecord block size)).map fun records =>
        (entries ++ records.map (·.1), records.foldl (fun used r => max used r.2) used)) := by
  induction count generalizing index entries used with
  | zero => simp [dictionaryFrom, Except.map, pure, Except.pure]
  | succ count ih =>
      have hnext := ih (index + 1) (by omega)
      rw [dictionaryFrom, List.range'_succ, List.mapM_cons,
        dictionaryRecord_eq h hsize (by omega), ok_bind]
      cases Dictionary.decodeRecord block size index with
      | error defect => rfl
      | ok record =>
          simp only [hnext]
          cases (List.range' (index + 1) count).mapM (Dictionary.decodeRecord block size) with
          | error defect => rfl
          | ok records => simp [Except.map, bind, Except.bind, pure, Except.pure]

end Dictionary

theorem decodeDictionary_eq (h : block.length < 2 ^ 63) :
    decodeDictionary block = .ok (Dictionary.decode block) := by
  unfold decodeDictionary Dictionary.decode
  simp only [readWord?_eq h, ok_bind]
  cases hcount : Bytes.u32At? block 8 with
  | none => rfl
  | some count =>
      cases hsize : Bytes.u32At? block 12 with
      | none => rfl
      | some size =>
          have hcountLt := count.toNat_lt
          by_cases hsize : size.toNat = 16 ∨ size.toNat = 24 ∨ size.toNat = 32
          · have hle : size.toNat ≤ 32 := by omega
            have hproduct : count.toNat * size.toNat ≤ 2 ^ 32 * 32 :=
              Nat.mul_le_mul (by omega) hle
            have hstop : (mul? count.toNat size.toNat).bind (add? · 16) =
                some (count.toNat * size.toNat + 16) := by
              rw [mul?, if_pos (by omega), Option.bind_some, add?_eq (by omega)]
            simp only [hstop, hsize, not_true_eq_false, if_false, Option.filter_some]
            by_cases hlong : count.toNat * size.toNat + 16 > block.length
            · simp [Nat.not_le.mpr hlong, hlong]
            · simp only [Nat.not_lt.mp hlong, hlong, decide_true, if_true, if_false,
                dictionaryFrom_eq h hle count.toNat 0 (by omega), ok_bind, List.nil_append,
                List.range_eq_range']
              cases (List.range' 0 count.toNat).mapM (Dictionary.decodeRecord block size.toNat) with
              | error defect => rfl
              | ok records => rfl
          · simp only [hsize, not_false_eq_true, if_true]
            rfl

end IccProfile.Checked
