import IccProfile.Proofs.Text.Stored
import IccProfile.Tag.Dictionary

/-!
# Dictionaries read back

A `dict` block is a table of ranges and the padded strings behind it. Each entry
takes two ranges and two strings, so the walk moves on by one record in the table and
by two padded lengths among the strings (`decodeRecord_written`, `mapM_decodeRecord`).
No offset is zero, so no value is taken for an empty one. `Dictionary.decode_encode`
reports the whole block as used.
-/

set_option autoImplicit false

namespace IccProfile.Dictionary

open Bytes (HoldsAt)

/-- What storage keeps of an entry. -/
def storedEntry (entry : String × String) : String × String :=
  (Text.beforeNul entry.1, Text.beforeNul entry.2)

/-- What storage keeps of a dictionary. -/
def stored (d : Dictionary) : Dictionary := ⟨d.entries.map storedEntry⟩

/-- No name and no value holds a NUL. -/
def NulFree (d : Dictionary) : Prop := ∀ e ∈ d.entries, Text.NulFree e.1 ∧ Text.NulFree e.2

instance (d : Dictionary) : Decidable d.NulFree := List.decidableBAll _ _

theorem stored_eq_self {d : Dictionary} (h : d.NulFree) : d.stored = d := by
  have hmap : d.entries.map storedEntry = d.entries := by
    apply Text.map_eq_self
    intro e he
    rw [storedEntry, Text.beforeNul_eq_self (h e he).1, Text.beforeNul_eq_self (h e he).2]
  rw [stored, hmap]

/-! ## Records -/

/-- The bytes that an entry takes among the strings. -/
def entrySize (entry : String × String) : Nat :=
  Bytes.ceil4 (Text.toUtf16 entry.1).length + Bytes.ceil4 (Text.toUtf16 entry.2).length

/-- The stored strings of entries in order. -/
abbrev strings (entries : List (String × String)) : List Bytes := entries.flatMap storedStrings

/-- What reading a record gives: the stored entry and the end of its strings. -/
def readRecords (offset : Nat) : List (String × String) → List ((String × String) × Nat)
  | [] => []
  | entry :: rest =>
    (storedEntry entry, offset + entrySize entry) :: readRecords (offset + entrySize entry) rest

@[simp] theorem length_strings (entries : List (String × String)) :
    (strings entries).length = entries.length * 2 := by
  induction entries with
  | nil => rfl
  | cons entry rest ih =>
      rw [strings, List.flatMap_cons, List.length_append, ih]
      simp only [storedStrings, List.length_cons, List.length_nil]
      omega

section Block

variable {block : Bytes}

theorem string?_of_holdsAt {s : String} {offset : Nat}
    (h : HoldsAt block offset (Text.toUtf16 s)) :
    string? block offset (Text.toUtf16 s).length = some (Text.beforeNul s) := by
  rw [string?, h.slice? rfl, Option.bind_some, Text.ofUtf16?_toUtf16]

/-- A record with both strings in place reads as the stored entry. -/
theorem decodeRecord_written (hblock : block.length < UInt32.size) {entry : String × String}
    {rest : List (String × String)} {index offset : Nat} (hpos : 0 < offset)
    (haligned : offset % 4 = 0)
    (hranges : HoldsAt block (16 + index * recordSize)
      (Bytes.encodeRanges offset (strings (entry :: rest))))
    (hstrings : HoldsAt block offset ((strings (entry :: rest)).flatMap Bytes.pad4)) :
    decodeRecord block recordSize index = .ok (storedEntry entry, offset + entrySize entry) := by
  obtain ⟨name, value⟩ := entry
  have hname : HoldsAt block offset (Text.toUtf16 name) := hstrings.left.of_pad4
  have hvalue : HoldsAt block (offset + Bytes.ceil4 (Text.toUtf16 name).length)
      (Text.toUtf16 value) := hstrings.behind_pad4.left.of_pad4
  have hnameEnd := hname.le_length
  have hvalueEnd := hvalue.le_length
  -- the four words of the record
  have hrow : HoldsAt block (16 + index * recordSize)
      (Bytes.ofSize offset ++ Bytes.ofSize (Text.toUtf16 name).length
        ++ (Bytes.ofSize (offset + Bytes.ceil4 (Text.toUtf16 name).length)
          ++ Bytes.ofSize (Text.toUtf16 value).length ++ _)) := hranges
  have hsecond : HoldsAt block (16 + index * recordSize + 8) _ := hrow.behind (by simp)
  have w0 : (Bytes.wordAt block (16 + index * recordSize)).toNat = offset := by
    rw [hrow.left.left.wordAt, UInt32.toNat_ofNat_of_lt' (by omega)]
  have w1 : (Bytes.wordAt block (16 + index * recordSize + 4)).toNat =
      (Text.toUtf16 name).length := by
    rw [(hrow.left.behind (by simp)).wordAt, UInt32.toNat_ofNat_of_lt' (by omega)]
  have w2 : (Bytes.wordAt block (16 + index * recordSize + 8)).toNat =
      offset + Bytes.ceil4 (Text.toUtf16 name).length := by
    rw [hsecond.left.left.wordAt, UInt32.toNat_ofNat_of_lt' (by omega)]
  have w3 : (Bytes.wordAt block (16 + index * recordSize + 12)).toNat =
      (Text.toUtf16 value).length := by
    rw [(hsecond.left.behind (by simp)).wordAt, UInt32.toNat_ofNat_of_lt' (by omega)]
  have hvalueOffset : offset + Bytes.ceil4 (Text.toUtf16 name).length ≠ 0 := by omega
  -- the value ends behind the name
  have hend : max (Bytes.ceil4 (offset + (Text.toUtf16 name).length))
      (Bytes.ceil4 (offset + Bytes.ceil4 (Text.toUtf16 name).length
        + (Text.toUtf16 value).length)) = offset + entrySize (name, value) := by
    have hmod := Bytes.ceil4_mod (Text.toUtf16 name).length
    rw [Bytes.ceil4_add haligned, Bytes.ceil4_add (by omega)]
    simp only [entrySize]
    omega
  simp only [decodeRecord, w0, w1, w2, w3, if_neg hvalueOffset, string?_of_holdsAt hname,
    string?_of_holdsAt hvalue, hend]
  rfl

/-- The walk over a written table gives the stored entries in order. -/
theorem mapM_decodeRecord (hblock : block.length < UInt32.size) (entries : List (String × String))
    (index offset : Nat) (hpos : 0 < offset) (haligned : offset % 4 = 0)
    (hranges : HoldsAt block (16 + index * recordSize)
      (Bytes.encodeRanges offset (strings entries)))
    (hstrings : HoldsAt block offset ((strings entries).flatMap Bytes.pad4)) :
    (List.range' index entries.length).mapM (decodeRecord block recordSize) =
      .ok (readRecords offset entries) := by
  induction entries generalizing index offset with
  | nil => rfl
  | cons entry rest ih =>
      have hfirst := decodeRecord_written hblock hpos haligned hranges hstrings
      have hsize : entrySize entry % 4 = 0 := by
        have hname := Bytes.ceil4_mod (Text.toUtf16 entry.1).length
        have hvalue := Bytes.ceil4_mod (Text.toUtf16 entry.2).length
        rw [entrySize]
        omega
      have hrow : HoldsAt block (16 + index * recordSize)
          ((Bytes.ofSize offset ++ Bytes.ofSize (Text.toUtf16 entry.1).length)
            ++ ((Bytes.ofSize (offset + Bytes.ceil4 (Text.toUtf16 entry.1).length)
              ++ Bytes.ofSize (Text.toUtf16 entry.2).length) ++ _)) := hranges
      -- the table moves on by two ranges, the strings by two padded strings
      have hnextRanges : HoldsAt block (16 + (index + 1) * recordSize)
          (Bytes.encodeRanges (offset + entrySize entry) (strings rest)) := by
        rw [entrySize, ← Nat.add_assoc]
        exact (hrow.behind rfl).behind (by simp [recordSize]; omega)
      have hnextStrings : HoldsAt block (offset + entrySize entry)
          ((strings rest).flatMap Bytes.pad4) := by
        rw [entrySize, ← Nat.add_assoc]
        exact hstrings.behind_pad4.behind_pad4
      have hrest := ih (index + 1) (offset + entrySize entry) (by omega) (by omega)
        hnextRanges hnextStrings
      rw [List.length_cons, List.range'_succ, List.mapM_cons, hfirst]
      simp only [bind, Except.bind, pure, Except.pure, hrest, readRecords]

end Block

theorem map_fst_readRecords (entries : List (String × String)) (offset : Nat) :
    (readRecords offset entries).map (·.1) = entries.map storedEntry := by
  induction entries generalizing offset with
  | nil => rfl
  | cons entry rest ih => rw [readRecords, List.map_cons, ih, List.map_cons]

/-- The records end where the padded strings end. -/
theorem foldl_readRecords (entries : List (String × String)) (offset used : Nat)
    (hempty : entries = [] → offset ≤ used) :
    (readRecords offset entries).foldl (fun used r => max used r.2) used =
      max used (offset + ((strings entries).flatMap Bytes.pad4).length) := by
  induction entries generalizing offset used with
  | nil =>
      have hoffset := hempty rfl
      simp [readRecords]
      omega
  | cons entry rest ih =>
      rw [readRecords, List.foldl_cons, ih _ _ (by omega)]
      have hsize : ((strings (entry :: rest)).flatMap Bytes.pad4).length =
          entrySize entry + ((strings rest).flatMap Bytes.pad4).length := by
        simp [strings, storedStrings, entrySize]
        omega
      rw [hsize]
      omega

/-! ## The block -/

/-- The length of what stands in front of the strings. -/
theorem length_table (d : Dictionary) :
    (blockHead Signature.typeDictionary ++ Bytes.ofSize d.entries.length
      ++ Bytes.ofSize recordSize ++ Bytes.encodeRanges (16 + d.entries.length * recordSize)
        (strings d.entries)).length = 16 + d.entries.length * recordSize := by
  simp only [blockHead, List.length_append, Bytes.length_ofWord32, Bytes.length_ofSize,
    Bytes.length_encodeRanges, length_strings, List.length_cons, List.length_nil, recordSize]
  omega

/-- The parts of a written block with their places. -/
theorem holdsAt_encode (d : Dictionary) :
    HoldsAt d.encode 0 (Bytes.ofWord32 Signature.typeDictionary) ∧
      HoldsAt d.encode 8 (Bytes.ofSize d.entries.length) ∧
      HoldsAt d.encode 12 (Bytes.ofSize recordSize) ∧
      HoldsAt d.encode 16
        (Bytes.encodeRanges (16 + d.entries.length * recordSize) (strings d.entries)) ∧
      HoldsAt d.encode (16 + d.entries.length * recordSize)
        ((strings d.entries).flatMap Bytes.pad4) := by
  have hall := Bytes.holdsAt_self d.encode
  refine ⟨hall.left.left.left.left.left, ?_, ?_, ?_, ?_⟩
  · exact hall.left.left.left.behind (by simp [blockHead])
  · exact hall.left.left.behind (by simp [blockHead])
  · exact hall.left.behind (by simp [blockHead])
  · exact hall.behind (by rw [length_table, Nat.zero_add])

/-- Reading a written block gives what storage keeps, and uses all of it. -/
theorem decode_encode {d : Dictionary} (hlength : d.encode.length < UInt32.size) :
    decode d.encode = .ok (d.stored, d.encode.length) := by
  obtain ⟨-, hcount, hsize, hranges, hstrings⟩ := holdsAt_encode d
  have hsmall : recordSize = 16 := rfl
  have htotal : d.encode.length =
      16 + d.entries.length * recordSize + ((strings d.entries).flatMap Bytes.pad4).length := by
    rw [encode, List.length_append, length_table]
  have hrecords := mapM_decodeRecord hlength d.entries 0
    (16 + d.entries.length * recordSize) (by omega) (by rw [hsmall]; omega) hranges hstrings
  have hused := foldl_readRecords d.entries (16 + d.entries.length * recordSize)
    (d.entries.length * recordSize + 16) (by omega)
  rw [decode, hcount.u32At?, hsize.u32At?]
  rw [hsmall] at htotal
  simp only [UInt32.toNat_ofNat_of_lt' (show recordSize < UInt32.size by decide),
    UInt32.toNat_ofNat_of_lt' (show d.entries.length < UInt32.size by omega)]
  rw [if_neg (by simp [hsmall]), if_neg (by rw [hsmall]; omega), List.range_eq_range', hrecords]
  simp only [map_fst_readRecords, hused]
  have hmin : min (max (d.entries.length * recordSize + 16) (16 + d.entries.length * recordSize
      + ((strings d.entries).flatMap Bytes.pad4).length)) d.encode.length = d.encode.length := by
    rw [hsmall]
    omega
  rw [hmin, stored]

end IccProfile.Dictionary
