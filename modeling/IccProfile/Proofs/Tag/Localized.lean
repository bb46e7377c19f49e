import IccProfile.Proofs.Text.Stored
import IccProfile.Tag.Localized

/-!
# Localized text reads back

An `mluc` block is a table of records and the strings behind it. The loop over the
table is followed entry by entry: `encodeRecords` places a record, the record points
at its string, and the string reads as its part before the first NUL
(`entryOf?_record`). The loop gives the stored entries in order and ends where the
strings end (`Walk.run_written`), so `LocalizedText.decode_encode` reports the whole block
as used.
-/

set_option autoImplicit false

namespace IccProfile

open Bytes (HoldsAt)

/-- What storage keeps of a string in a language. -/
def LocalizedString.stored (s : LocalizedString) : LocalizedString :=
  { s with text := Text.beforeNul s.text }

namespace LocalizedText

/-- What storage keeps of strings in several languages. -/
def stored (t : LocalizedText) : LocalizedText := ⟨t.entries.map LocalizedString.stored⟩

/-- Every entry has a language and a country that fit their fields. -/
def HasCodes (t : LocalizedText) : Prop :=
  ∀ e ∈ t.entries, Text.IsCode e.language ∧ Text.IsCode e.country

/-- No text holds a NUL. -/
def NulFree (t : LocalizedText) : Prop := ∀ e ∈ t.entries, Text.NulFree e.text

instance (t : LocalizedText) : Decidable t.HasCodes := List.decidableBAll _ _

instance (t : LocalizedText) : Decidable t.NulFree := List.decidableBAll _ _

theorem stored_eq_self {t : LocalizedText} (h : t.NulFree) : t.stored = t := by
  have hmap : t.entries.map LocalizedString.stored = t.entries := by
    apply Text.map_eq_self
    intro e he
    rw [LocalizedString.stored, Text.beforeNul_eq_self (h e he)]
  rw [stored, hmap]

/-! ## Records -/

/-- The record of an entry whose string is stored at an offset. -/
def record (offset : Nat) (entry : LocalizedString) : Bytes :=
  Text.code2 entry.language ++ Text.code2 entry.country
    ++ Bytes.ofSize (Text.toUtf16 entry.text).length ++ Bytes.ofSize offset

theorem encodeRecords_cons (offset : Nat) (entry : LocalizedString)
    (rest : List LocalizedString) :
    encodeRecords offset (entry :: rest) =
      record offset entry ++ encodeRecords (offset + (Text.toUtf16 entry.text).length) rest := rfl

@[simp] theorem length_record (offset : Nat) (entry : LocalizedString) :
    (record offset entry).length = recordSize := by
  simp [record, recordSize]

@[simp] theorem length_encodeRecords (offset : Nat) (entries : List LocalizedString) :
    (encodeRecords offset entries).length = entries.length * recordSize := by
  induction entries generalizing offset with
  | nil => simp [encodeRecords]
  | cons entry rest ih =>
      rw [encodeRecords_cons, List.length_append, length_record, ih, List.length_cons,
        Nat.add_mul, Nat.one_mul, Nat.add_comm]

section Block

variable {block : Bytes} {entry : LocalizedString} {offset : Nat}

/-- The fields of a record are those of its entry. -/
theorem stringOffset_record (hoffset : offset < UInt32.size) :
    stringOffset (record offset entry) = offset := by
  have hplace : HoldsAt (record offset entry) 8 (Bytes.ofSize offset) := by
    simpa [record] using Bytes.holdsAt_append_right
      (Text.code2 entry.language ++ Text.code2 entry.country
        ++ Bytes.ofSize (Text.toUtf16 entry.text).length) (Bytes.ofSize offset)
  rw [stringOffset, hplace.wordAt, UInt32.toNat_ofNat_of_lt' hoffset]

theorem stringLength_record (hlength : (Text.toUtf16 entry.text).length < UInt32.size) :
    stringLength (record offset entry) = (Text.toUtf16 entry.text).length := by
  have hplace : HoldsAt (record offset entry) 4
      (Bytes.ofSize (Text.toUtf16 entry.text).length) := by
    simpa [record] using Bytes.holdsAt_append (Text.code2 entry.language
      ++ Text.code2 entry.country) (Bytes.ofSize (Text.toUtf16 entry.text).length)
        (Bytes.ofSize offset)
  rw [stringLength, hplace.wordAt, UInt32.toNat_ofNat_of_lt' hlength]

theorem stringBytes?_record (hblock : block.length < UInt32.size)
    (hstring : HoldsAt block offset (Text.toUtf16 entry.text)) :
    stringBytes? block (record offset entry) = some (Text.toUtf16 entry.text) := by
  have hle := hstring.le_length
  rw [stringBytes?, stringOffset_record (by omega), stringLength_record (by omega)]
  exact hstring

/-- A record whose string is in its place reads as the stored entry. -/
theorem entryOf?_record (hblock : block.length < UInt32.size)
    (hcodes : Text.IsCode entry.language ∧ Text.IsCode entry.country)
    (hstring : HoldsAt block offset (Text.toUtf16 entry.text)) :
    entryOf? block (record offset entry) = some entry.stored := by
  have hlanguage : (record offset entry).take 2 = Text.code2 entry.language := by
    rw [record, List.append_assoc, List.append_assoc, List.take_left' (Text.length_code2 _)]
  have hcountry : ((record offset entry).drop 2).take 2 = Text.code2 entry.country := by
    rw [record, List.append_assoc, List.append_assoc, List.drop_left' (Text.length_code2 _),
      List.take_left' (Text.length_code2 _)]
  rw [entryOf?, stringBytes?_record hblock hstring, hlanguage, hcountry,
    Text.ofBytes_code2 hcodes.1, Text.ofBytes_code2 hcodes.2]
  simp only [Option.bind_eq_bind, Option.bind_some, Text.ofUtf16?_toUtf16]
  rfl

theorem recordEnd_record {place : Nat} (hblock : block.length < UInt32.size)
    (hstring : HoldsAt block offset (Text.toUtf16 entry.text)) :
    recordEnd block place (record offset entry) =
      max (place + recordSize) (offset + (Text.toUtf16 entry.text).length) := by
  have hle := hstring.le_length
  rw [recordEnd, stringBytes?_record hblock hstring, stringOffset_record (by omega),
    stringLength_record (by omega)]

end Block

/-! ## The table -/

/-- The stored strings of entries, one after the other. -/
abbrev strings (entries : List LocalizedString) : Bytes :=
  entries.flatMap fun entry => Text.toUtf16 entry.text

theorem place_succ (size i : Nat) : place size (i + 1) = place size i + size := by
  rw [place, place, Nat.add_mul, Nat.one_mul, Nat.add_assoc]

namespace Walk

variable {block : Bytes} {size left : Nat} {w : Walk}

theorem run_of_none (h : Bytes.slice? block (place size w.index) recordSize = none) :
    w.run block size (left + 1) = (w, 1) := by
  rw [run, h]

theorem run_of_some {record : Bytes}
    (h : Bytes.slice? block (place size w.index) recordSize = some record) :
    w.run block size (left + 1) =
      (((w.after block size record).run block size left).1,
        ((w.after block size record).run block size left).2 + 1) := by
  rw [run, h]

/-- The loop over a written table gives the stored entries and ends behind the last string. -/
theorem run_written (hblock : block.length < UInt32.size) (entries : List LocalizedString)
    (w : Walk) (offset : Nat)
    (hcodes : ∀ e ∈ entries, Text.IsCode e.language ∧ Text.IsCode e.country)
    (hrecords : HoldsAt block (place recordSize w.index) (encodeRecords offset entries))
    (hstrings : HoldsAt block offset (strings entries))
    (hbehind : place recordSize w.index + entries.length * recordSize ≤ offset)
    (hempty : entries = [] → offset ≤ w.used) :
    (w.run block recordSize entries.length).1.entries =
        w.entries ++ entries.map LocalizedString.stored ∧
      (w.run block recordSize entries.length).1.used =
        max w.used (offset + (strings entries).length) := by
  -- the places of the remaining records and strings move on together
  induction entries generalizing w offset with
  | nil =>
      have hoffset := hempty rfl
      refine ⟨(List.append_nil _).symm, ?_⟩
      simp [run, strings]
      omega
  | cons entry rest ih =>
      have hplace : HoldsAt block (place recordSize w.index) (record offset entry) := hrecords.left
      have hslice := hplace.slice? (length_record ..).symm
      have hentry := entryOf?_record hblock (hcodes entry List.mem_cons_self) hstrings.left
      have hend : recordEnd block (place recordSize w.index) (record offset entry) =
          max (place recordSize w.index + recordSize)
            (offset + (Text.toUtf16 entry.text).length) :=
        recordEnd_record hblock hstrings.left
      have hindex : place recordSize (w.after block recordSize (record offset entry)).index =
          place recordSize w.index + recordSize := place_succ ..
      rw [List.length_cons, Nat.add_mul, Nat.one_mul] at hbehind
      obtain ⟨hentries, hused⟩ := ih (w.after block recordSize (record offset entry))
        (offset + (Text.toUtf16 entry.text).length)
        (fun e he => hcodes e (List.mem_cons_of_mem entry he))
        (hindex ▸ hrecords.behind (by simp [recordSize])) hstrings.right
        (by omega) (by
          intro _
          simp only [after, hend]
          omega)
      rw [List.length_cons, run_of_some hslice]
      refine ⟨?_, ?_⟩
      · rw [hentries]
        simp only [after, hentry, Option.toList_some, List.append_assoc, List.singleton_append,
          List.map_cons]
      -- a record ends in front of the strings, so its string decides
      · rw [hused]
        simp only [after, hend, strings, List.flatMap_cons, List.length_append]
        omega

end Walk

/-! ## The block -/

/-- The parts of a written block with their places. -/
theorem holdsAt_encode (t : LocalizedText) :
    HoldsAt t.encode 0 (Bytes.ofWord32 Signature.typeLocalized) ∧
      HoldsAt t.encode 8 (Bytes.ofSize t.entries.length) ∧
      HoldsAt t.encode 12 (Bytes.ofSize recordSize) ∧
      HoldsAt t.encode 16
        (encodeRecords (16 + t.entries.length * recordSize) t.entries) ∧
      HoldsAt t.encode (16 + t.entries.length * recordSize) (strings t.entries) := by
  have hall := Bytes.holdsAt_self t.encode
  refine ⟨hall.left.left.left.left.left, ?_, ?_, ?_, ?_⟩
  · simpa [blockHead] using hall.left.left.left.right
  · simpa [blockHead] using hall.left.left.right
  · simpa [blockHead] using hall.left.right
  · exact hall.behind (by simp [blockHead]; omega)

/-- Reading a written block gives what storage keeps, and uses all of it. -/
theorem decode_encode {t : LocalizedText} (hcodes : t.HasCodes)
    (hlength : t.encode.length < UInt32.size) :
    decode t.encode = .ok (t.stored, t.encode.length) := by
  obtain ⟨-, hcount, hsize, hrecords, hstrings⟩ := holdsAt_encode t
  -- the head, the records and the strings fill the block
  have htotal : t.encode.length =
      16 + t.entries.length * recordSize + (strings t.entries).length := by
    simp [encode, blockHead]
    omega
  have hsmall : recordSize = 12 := rfl
  rw [hsmall] at htotal
  obtain ⟨hentries, hused⟩ :=
    Walk.run_written hlength t.entries .start _ hcodes hrecords hstrings (Nat.le_refl _) (by
      intro hnil
      simp [hnil, Walk.start])
  have hstart : Walk.start.entries = [] ∧ Walk.start.used = 16 := ⟨rfl, rfl⟩
  have hend : max Walk.start.used (16 + t.entries.length * recordSize +
      (strings t.entries).length) = t.encode.length := by
    rw [hsmall, hstart.2]
    omega
  rw [hstart.1, List.nil_append] at hentries
  rw [hend] at hused
  rw [decode, hcount.u32At?, hsize.u32At?]
  simp only [UInt32.toNat_ofNat_of_lt' (show recordSize < UInt32.size by decide),
    UInt32.toNat_ofNat_of_lt' (show t.entries.length < UInt32.size by omega), Nat.lt_irrefl,
    if_false, hentries, hused, stored]

end LocalizedText

end IccProfile
