import IccProfile.Proofs.Checked.Blocks
import IccProfile.Proofs.Text.Stored

/-!
# Encoding with checks

A block with a table is written in two passes over one growing byte string: the table is
zeros at first, each row is copied over the next zeros when its string is known, and the
string is put behind all that is there. `copy_zeros` is one such copy. The walks carry as
invariant the byte string as rows, zeros for the rows to come, and strings; at their end no
zeros are left and the block is the one that is written in one piece
(`writeRecords_gives`, `writeEntries_gives`).

The count of a `desc` block is a sum of 32 bits, which holds for texts below `2 ^ 32 - 1`
bytes.
-/

set_option autoImplicit false

namespace IccProfile.Checked

/-! ## Rows over zeros -/

/-- Zeros that are written over later. -/
def zeros (n : Nat) : Bytes := List.replicate n 0

@[simp] theorem length_zeros (n : Nat) : (zeros n).length = n := List.length_replicate

theorem zeros_add (m n : Nat) : zeros (m + n) = zeros m ++ zeros n :=
  List.replicate_append_replicate.symm

section Zeros

variable {before after : Bytes} {start n : Nat}

/-- An overwrite of a part between two others. -/
theorem patch_between {old new : Bytes} (hstart : start = before.length)
    (hlength : old.length = new.length) :
    Bytes.patch (before ++ (old ++ after)) start new = before ++ (new ++ after) := by
  subst hstart
  have hfit : before.length + new.length ≤ (before ++ (old ++ after)).length := by
    simp
    omega
  have hbehind : (before ++ (old ++ after)).drop (before.length + new.length) = after := by
    rw [← hlength, ← List.drop_drop, List.drop_left, List.drop_left]
  rw [Bytes.patch, if_pos hfit, List.take_left, hbehind, List.append_assoc]

/-- A copy over the first zeros between two parts. -/
theorem copy_zeros {new : Bytes} {stop : Nat} (hstart : start = before.length)
    (hstop : stop = start + new.length) (hfit : new.length ≤ n) :
    copy (before ++ (zeros n ++ after)) start stop new =
      .ok (before ++ new ++ (zeros (n - new.length) ++ after)) := by
  have hsplit : zeros n = zeros new.length ++ zeros (n - new.length) := by
    rw [← zeros_add, Nat.add_sub_cancel' hfit]
  rw [copy_eq hstop (by simp; omega), hsplit, List.append_assoc,
    patch_between hstart (length_zeros _), List.append_assoc]

theorem writeWord_zeros {value : UInt32} (hstart : start = before.length) (hfit : 4 ≤ n)
    (hword : before.length + 4 < 2 ^ 64) :
    writeWord (before ++ (zeros n ++ after)) start value =
      .ok (before ++ Bytes.ofWord32 value ++ (zeros (n - 4) ++ after)) := by
  rw [writeWord, add_eq (by omega), ok_bind,
    copy_zeros hstart (by rw [Bytes.length_ofWord32]) (by rw [Bytes.length_ofWord32]; exact hfit),
    Bytes.length_ofWord32]

end Zeros

/-- The word of a number is written as its four low bytes. -/
theorem ofWord32_ofNat (n : Nat) : Bytes.ofWord32 (UInt32.ofNat n) = Bytes.ofSize n := by
  have hlow : (UInt32.ofNat n).toNat = Bytes.toNat (Bytes.ofNat 4 n) := by
    rw [Bytes.toNat_ofNat]
    exact UInt32.toNat_ofNat'
  have hwritten := Bytes.ofNat_toNat (Bytes.ofNat 4 n)
  rw [Bytes.length_ofNat] at hwritten
  rw [Bytes.ofWord32, hlow, hwritten, Bytes.ofSize]

/-- The head of a block with a table, before zeros for its rows. -/
def writeHead (size : Nat) (type : Signature) (count recordSize : Nat) : Checked Bytes := do
  let out ← hold (zeros size)
  let out ← writeWord out 0 type
  let out ← writeWord out 8 (UInt32.ofNat count)
  writeWord out 12 (UInt32.ofNat recordSize)

theorem gives_writeHead {α : Type} {f : Bytes → Checked α} {w : α} {rows count recordSize : Nat}
    {type : Signature}
    (hf : 16 + rows < 2 ^ 63 → Gives (f (blockHead type ++ Bytes.ofSize count
      ++ Bytes.ofSize recordSize ++ (zeros rows ++ []))) w) :
    Gives (writeHead (16 + rows) type count recordSize >>= f) w := by
  rw [writeHead]
  simp only [bind_assoc]
  apply gives_hold
  intro hheld
  rw [length_zeros] at hheld
  have hlength : (blockHead type).length = 8 := by simp [blockHead]
  have htype : writeWord (zeros (16 + rows)) 0 type =
      .ok (blockHead type ++ (zeros (8 + rows) ++ [])) := by
    have hsplit : zeros (16 + rows - 4) = zeros 4 ++ zeros (8 + rows) := by
      rw [← zeros_add]
      congr 1
      omega
    have h : writeWord ([] ++ (zeros (16 + rows) ++ [])) 0 type =
        .ok ([] ++ Bytes.ofWord32 type ++ (zeros (16 + rows - 4) ++ [])) :=
      writeWord_zeros (List.length_nil).symm (by omega) (by decide)
    rw [hsplit, List.nil_append, List.append_nil] at h
    rw [h, List.nil_append, List.append_nil, List.append_nil, blockHead, List.append_assoc]
    rfl
  rw [htype, ok_bind, writeWord_zeros (by omega) (by omega) (by omega), ok_bind,
    writeWord_zeros (by simp; omega) (by omega) (by simp; omega), ok_bind, ofWord32_ofNat,
    ofWord32_ofNat]
  have hrows : 8 + rows - 4 - 4 = rows := by omega
  rw [hrows]
  exact hf hheld

/-! ## Plain text -/

/-- Writes a `text` block. -/
def encodeText (text : String) : Checked Bytes := do
  let text ← holdText text
  let _ ← add 9 text.utf8ByteSize
  hold (PlainText.encode text)

/-- Writes a `desc` block. -/
def encodeDescription (text : String) : Checked Bytes := do
  let text ← holdText text
  let _ ← add (← add (← add 12 text.utf8ByteSize) 1) DescriptionText.trailerSize
  let count ← addWord (UInt32.ofNat text.utf8ByteSize) 1
  hold (blockHead Signature.typeDescription ++ Bytes.ofWord32 count ++ Text.toAscii text ++ [0]
    ++ zeros DescriptionText.trailerSize)

theorem encodeText_gives (text : String) :
    Gives (encodeText text) (PlainText.encode text) := by
  apply gives_holdText
  intro h
  rw [add_eq (by omega), ok_bind]
  exact hold_gives _

theorem encodeDescription_gives {text : String} (h : text.utf8ByteSize < 2 ^ 31) :
    Gives (encodeDescription text) (DescriptionText.encode text) := by
  have hcount : (UInt32.ofNat text.utf8ByteSize).toNat + (1 : UInt32).toNat < 2 ^ 32 := by
    rw [UInt32.toNat_ofNat', UInt32.toNat_one, Nat.mod_eq_of_lt (by omega)]
    omega
  have hsame : UInt32.ofNat text.utf8ByteSize + 1 =
      UInt32.ofNat ((Text.toAscii text).length + 1) := by
    rw [Text.length_toAscii, ← Text.utf8ByteSize_eq, UInt32.ofNat_add]
    rfl
  apply gives_holdText
  intro _
  rw [DescriptionText.trailerSize, add_eq (by omega), ok_bind, add_eq (by omega), ok_bind,
    add_eq (by omega), ok_bind, addWord_eq hcount, ok_bind, hsame, ofWord32_ofNat]
  exact hold_gives _

/-! ## Localized text -/

/-- Writes the records of a table from an index on, and behind the bytes their strings. -/
def writeRecords (out : Bytes) : (index : Nat) → List (LocalizedString × Bytes) → Checked Bytes
  | _, [] => return out
  | index, (entry, stored) :: rest => do
    let record ← add 16 (← mul index LocalizedText.recordSize)
    let country ← add record 2
    let out ← copy out record country (Text.code2 entry.language)
    let length ← add record 4
    let out ← copy out country length (Text.code2 entry.country)
    let offset := UInt32.ofNat out.length
    let out ← writeWord out length (UInt32.ofNat stored.length)
    let out ← writeWord out (← add record 8) offset
    let out ← hold (out ++ stored)
    writeRecords out (index + 1) rest

/-- Writes an `mluc` block. -/
def encodeLocalized (text : LocalizedText) : Checked Bytes := do
  let strings := text.entries.map fun entry => Text.toUtf16 entry.text
  let sizes := strings.map (·.length)
  holdAll 24 sizes
  let tableEnd ← add 16 (← mul text.entries.length LocalizedText.recordSize)
  let _ ← add tableEnd (← sum sizes)
  let out ← writeHead tableEnd Signature.typeLocalized text.entries.length LocalizedText.recordSize
  writeRecords out 0 (text.entries.zip strings)

/-- One row is copied over the first twelve zeros, the induction goes on behind it. -/
theorem writeRecords_gives (before after : Bytes) (index offset : Nat)
    (entries : List LocalizedString) (hbefore : before.length = 16 + index * 12)
    (hoffset : offset = before.length + entries.length * 12 + after.length)
    (hheld : offset < 2 ^ 63) :
    Gives (writeRecords (before ++ (zeros (entries.length * 12) ++ after)) index
        (entries.zip (entries.map fun entry => Text.toUtf16 entry.text)))
      (before ++ (LocalizedText.encodeRecords offset entries
        ++ (after ++ entries.flatMap fun entry => Text.toUtf16 entry.text))) := by
  induction entries generalizing before after index offset with
  | nil => simpa [zeros, writeRecords, LocalizedText.encodeRecords] using gives_ok (before ++ after)
  | cons entry rest ih =>
      rw [List.length_cons] at hoffset ⊢
      rw [List.map_cons, List.zip_cons_cons, writeRecords]
      simp only [LocalizedText.recordSize, mul_eq (a := index) (b := 12) (by omega),
        add_eq (a := 16) (b := index * 12) (by omega),
        add_eq (a := 16 + index * 12) (b := 2) (by omega),
        add_eq (a := 16 + index * 12) (b := 4) (by omega),
        add_eq (a := 16 + index * 12) (b := 8) (by omega), ok_bind]
      rw [copy_zeros (by omega) (by rw [Text.length_code2]) (by rw [Text.length_code2]; omega),
        ok_bind, copy_zeros (by simp; omega) (by rw [Text.length_code2]) (by simp; omega), ok_bind,
        writeWord_zeros (by simp; omega) (by simp; omega) (by simp; omega), ok_bind,
        writeWord_zeros (by simp; omega) (by simp; omega) (by simp; omega), ok_bind]
      apply gives_hold
      intro hgrown
      -- the row is complete, and the zeros behind it are those of the rows to come
      have hzeros : (rest.length + 1) * 12 - 2 - 2 - 4 - 4 = rest.length * 12 := by omega
      have hplace : before.length + (2 + (2 + ((rest.length + 1) * 12 - 2 - 2 + after.length))) =
          offset := by omega
      simp only [Text.length_code2, ofWord32_ofNat, hzeros, hplace,
        List.length_append, length_zeros, List.append_assoc] at hgrown ⊢
      have hnext := ih (before ++ (Text.code2 entry.language ++ (Text.code2 entry.country
          ++ (Bytes.ofSize (Text.toUtf16 entry.text).length ++ Bytes.ofSize offset))))
        (after ++ Text.toUtf16 entry.text) (index + 1)
        (offset + (Text.toUtf16 entry.text).length) (by simp; omega) (by simp; omega)
        (by simp at hgrown; omega)
      simpa only [List.append_assoc, LocalizedText.encodeRecords, List.flatMap_cons] using hnext

theorem encodeLocalized_gives (text : LocalizedText) :
    Gives (encodeLocalized text) text.encode := by
  apply gives_holdAll
  intro hfits
  have htable := hfits.lt 12 16 (by decide) (by decide)
  have hcount : (text.entries.map fun entry => Text.toUtf16 entry.text).length =
    text.entries.length := List.length_map ..
  rw [List.length_map, hcount] at htable
  rw [LocalizedText.recordSize, mul_eq (by omega), ok_bind, add_eq (by omega), ok_bind,
    sum_eq (by omega), ok_bind, add_eq (by omega), ok_bind]
  apply gives_writeHead
  intro hheld
  have hwritten := writeRecords_gives
    (blockHead Signature.typeLocalized ++ Bytes.ofSize text.entries.length ++ Bytes.ofSize 12)
    [] 0 _ text.entries (by simp [blockHead]) rfl (by simp [blockHead]; omega)
  simpa [LocalizedText.encode, LocalizedText.recordSize, blockHead] using hwritten

/-! ## Dictionaries -/

/-- The sizes of the texts of pairs. -/
def textSizes (entries : List (String × String)) : List Nat :=
  entries.flatMap fun entry => [entry.1.utf8ByteSize, entry.2.utf8ByteSize]

theorem length_textSizes (entries : List (String × String)) :
    (textSizes entries).length = entries.length * 2 := by
  simp only [textSizes, List.length_flatMap, List.length_cons, List.length_nil, Nat.zero_add,
    Nat.reduceAdd, List.map_const', List.sum_replicate_nat]

/-- Writes the range of a string into its place of a table, and behind the bytes the string. -/
def writeString (out : Bytes) (place : Nat) (text : String) : Checked Bytes := do
  let stored ← hold (Text.toUtf16 text)
  let offset := UInt32.ofNat out.length
  let out ← writeWord out place offset
  let out ← writeWord out (← add place 4) (UInt32.ofNat stored.length)
  let out ← hold (out ++ stored)
  let size ← ceil4 out.length
  hold (out ++ zeros (size - out.length))

/-- Writes the records of a table from an index on, and behind the bytes their strings. -/
def writeEntries (out : Bytes) : (index : Nat) → List (String × String) → Checked Bytes
  | _, [] => return out
  | index, (name, value) :: rest => do
    let record ← add 16 (← mul index Dictionary.recordSize)
    let out ← writeString out (← add record (← mul 0 8)) name
    let out ← writeString out (← add record (← mul 1 8)) value
    writeEntries out (index + 1) rest

/-- Writes a `dict` block. -/
def encodeDictionary (entries : List (String × String)) : Checked Bytes := do
  holdAll 24 (textSizes entries)
  let tableEnd ← add 16 (← mul entries.length Dictionary.recordSize)
  let out ← writeHead tableEnd Signature.typeDictionary entries.length Dictionary.recordSize
  writeEntries out 0 entries

/-- A run goes on with the range over the first eight zeros and the padded string at the end. -/
theorem gives_writeString {α : Type} {f : Bytes → Checked α} {w : α} {before after : Bytes}
    {place n offset : Nat} {text : String} (hplace : place = before.length) (hn : 8 ≤ n)
    (hoffset : offset = before.length + n + after.length) (hmultiple : offset % 4 = 0)
    (hheld : offset < 2 ^ 63)
    (hf : offset + Bytes.ceil4 (Text.toUtf16 text).length < 2 ^ 63 →
      Gives (f (before ++ (Bytes.ofSize offset ++ Bytes.ofSize (Text.toUtf16 text).length)
        ++ (zeros (n - 8) ++ (after ++ Bytes.pad4 (Text.toUtf16 text))))) w) :
    Gives (writeString (before ++ (zeros n ++ after)) place text >>= f) w := by
  have hlength : (before ++ (zeros n ++ after)).length = offset := by
    simp
    omega
  rw [writeString]
  simp only [bind_assoc]
  apply gives_hold
  intro hstored
  rw [writeWord_zeros hplace (by omega) (by omega), ok_bind, add_eq (by omega), ok_bind,
    writeWord_zeros (by simp; omega) (by omega) (by simp; omega), ok_bind, ofWord32_ofNat,
    ofWord32_ofNat, hlength]
  apply gives_hold
  intro hgrown
  have hsize : n - 4 - 4 = n - 8 := by omega
  have hend : (before ++ Bytes.ofSize offset ++ Bytes.ofSize (Text.toUtf16 text).length
      ++ (zeros (n - 4 - 4) ++ after) ++ Text.toUtf16 text).length =
        offset + (Text.toUtf16 text).length := by
    simp
    omega
  have hpad : offset + Bytes.ceil4 (Text.toUtf16 text).length
      - (offset + (Text.toUtf16 text).length) =
        Bytes.ceil4 (Text.toUtf16 text).length - (Text.toUtf16 text).length := by
    omega
  rw [hend] at hgrown
  rw [hend, ceil4_eq (by omega), ok_bind, Bytes.ceil4_add hmultiple, hpad]
  apply gives_hold
  intro hpadded
  have hle := Bytes.le_ceil4 (Text.toUtf16 text).length
  rw [List.length_append, hend, length_zeros] at hpadded
  simpa only [hsize, List.append_assoc, Bytes.pad4, zeros] using hf (by omega)

/-- Two ranges are copied over the first sixteen zeros, the induction goes on behind them. -/
theorem writeEntries_gives (before after : Bytes) (index offset : Nat)
    (entries : List (String × String)) (hbefore : before.length = 16 + index * 16)
    (hoffset : offset = before.length + entries.length * 16 + after.length)
    (hmultiple : offset % 4 = 0) (hheld : offset < 2 ^ 63) :
    Gives (writeEntries (before ++ (zeros (entries.length * 16) ++ after)) index entries)
      (before ++ (Bytes.encodeRanges offset (entries.flatMap Dictionary.storedStrings)
        ++ (after ++ (entries.flatMap Dictionary.storedStrings).flatMap Bytes.pad4))) := by
  induction entries generalizing before after index offset with
  | nil => simpa [zeros, writeEntries, Bytes.encodeRanges] using gives_ok (before ++ after)
  | cons entry rest ih =>
      obtain ⟨name, value⟩ := entry
      rw [List.length_cons] at hoffset ⊢
      rw [writeEntries, Dictionary.recordSize, mul_eq (by omega), ok_bind, add_eq (by omega),
        ok_bind, mul_eq (by omega), ok_bind, add_eq (by omega), ok_bind]
      apply gives_writeString (by omega) (by omega) hoffset hmultiple hheld
      intro hname
      have hnameEnd := Bytes.ceil4_mod (Text.toUtf16 name).length
      have hvalueEnd := Bytes.ceil4_mod (Text.toUtf16 value).length
      rw [mul_eq (by omega), ok_bind, add_eq (by omega), ok_bind]
      have hvalueOffset : offset + Bytes.ceil4 (Text.toUtf16 name).length =
          (before ++ (Bytes.ofSize offset ++ Bytes.ofSize (Text.toUtf16 name).length)).length
            + ((rest.length + 1) * 16 - 8) + (after ++ Bytes.pad4 (Text.toUtf16 name)).length := by
        simp
        omega
      apply gives_writeString (by simp; omega) (by omega) hvalueOffset (by omega) hname
      intro hvalue
      -- both ranges are complete, and the zeros behind them are those of the rows to come
      have hzeros : (rest.length + 1) * 16 - 8 - 8 = rest.length * 16 := by omega
      have hnext := ih
        (before ++ (Bytes.ofSize offset ++ Bytes.ofSize (Text.toUtf16 name).length)
          ++ (Bytes.ofSize (offset + Bytes.ceil4 (Text.toUtf16 name).length)
            ++ Bytes.ofSize (Text.toUtf16 value).length))
        (after ++ Bytes.pad4 (Text.toUtf16 name) ++ Bytes.pad4 (Text.toUtf16 value)) (index + 1)
        (offset + Bytes.ceil4 (Text.toUtf16 name).length
          + Bytes.ceil4 (Text.toUtf16 value).length)
        (by simp; omega) (by simp; omega) (by omega) hvalue
      rw [hzeros]
      simpa only [List.append_assoc, Bytes.encodeRanges, List.flatMap_cons,
        Dictionary.storedStrings, List.cons_append, List.nil_append] using hnext

theorem encodeDictionary_gives (entries : List (String × String)) :
    Gives (encodeDictionary entries) (Dictionary.encode ⟨entries⟩) := by
  apply gives_holdAll
  intro hfits
  have htable := hfits.lt 8 16 (by decide) (by decide)
  rw [length_textSizes] at htable
  rw [Dictionary.recordSize, mul_eq (by omega), ok_bind, add_eq (by omega), ok_bind]
  apply gives_writeHead
  intro hheld
  have hwritten := writeEntries_gives
    (blockHead Signature.typeDictionary ++ Bytes.ofSize entries.length ++ Bytes.ofSize 16) [] 0 _
    entries (by simp [blockHead]) rfl (by simp [blockHead]; omega) (by simp [blockHead]; omega)
  simpa [Dictionary.encode, Dictionary.recordSize, blockHead] using hwritten

end IccProfile.Checked
