import IccProfile.Proofs.Tag.Localized
import IccProfile.Tag.Sequence

/-!
# Profile sequences read back

A `psid` block is a table of ranges and the elements behind it, all but the last
padded. An element is an ID and a whole `mluc` block, which reads back on its own
(`decodeDescription_encode`). The walk takes one range and one element at a time
(`decodeFrom_written`), and `ProfileSequence.decode_encode` reports the whole block as
used.
-/

set_option autoImplicit false

namespace IccProfile.ProfileSequence

open Bytes (HoldsAt)

/-- What storage keeps of an entry. -/
def storedEntry (entry : SequenceEntry) : SequenceEntry :=
  { entry with description := entry.description.stored }

/-- What storage keeps of a sequence. -/
def stored (s : ProfileSequence) : ProfileSequence := ⟨s.entries.map storedEntry⟩

/-- Every description has languages and countries that fit their fields. -/
def HasCodes (s : ProfileSequence) : Prop := ∀ e ∈ s.entries, e.description.HasCodes

/-- No description holds a NUL. -/
def NulFree (s : ProfileSequence) : Prop := ∀ e ∈ s.entries, e.description.NulFree

instance (s : ProfileSequence) : Decidable s.HasCodes := List.decidableBAll _ _

instance (s : ProfileSequence) : Decidable s.NulFree := List.decidableBAll _ _

theorem stored_eq_self {s : ProfileSequence} (h : s.NulFree) : s.stored = s := by
  have hmap : s.entries.map storedEntry = s.entries := by
    apply Text.map_eq_self
    intro e he
    rw [storedEntry, LocalizedText.stored_eq_self (h e he)]
  rw [stored, hmap]

/-! ## Elements -/

/-- A description reads back as what storage keeps of it. -/
theorem decodeDescription_encode {t : LocalizedText} (hcodes : t.HasCodes)
    (hlength : t.encode.length < UInt32.size) : decodeDescription t.encode = .ok t.stored := by
  have htype := (LocalizedText.holdsAt_encode t).1.u32At?_word
  simp only [decodeDescription, htype, if_true, LocalizedText.decode_encode hcodes hlength]
  rfl

theorem length_encodeEntry (entry : SequenceEntry) :
    (encodeEntry entry).length = 16 + entry.description.encode.length := by
  rw [encodeEntry, List.length_append, entry.id.length_eq]

theorem le_length_encode (t : LocalizedText) : 16 ≤ t.encode.length := by
  have hsize := (LocalizedText.holdsAt_encode t).2.2.1.le_length
  rw [Bytes.length_ofSize] at hsize
  exact hsize

theorem element?_of_holdsAt {block : Bytes} {entry : SequenceEntry} {offset : Nat}
    (h : HoldsAt block offset (encodeEntry entry)) :
    element? block offset (encodeEntry entry).length = some (encodeEntry entry) := by
  have hlong : 24 ≤ (encodeEntry entry).length := by
    have hdescription := le_length_encode entry.description
    rw [length_encodeEntry]
    omega
  rw [element?, h.slice? rfl, Option.filter_some, if_pos (decide_eq_true hlong)]

/-- The ID and the description of an element. -/
theorem entry_of_element (entry : SequenceEntry) :
    (encodeEntry entry).drop 16 = entry.description.encode ∧
      (ProfileId.ofBytes? ((encodeEntry entry).take 16)).getD .zero = entry.id := by
  constructor
  · rw [encodeEntry, List.drop_left' entry.id.length_eq]
  · rw [encodeEntry, List.take_left' entry.id.length_eq, ProfileId.ofBytes?,
      dif_pos entry.id.length_eq, Option.getD_some]

/-! ## The table -/

/-- The elements behind the first one start at a multiple of four behind it. -/
theorem holdsAt_encodeElements {block element : Bytes} {rest : List Bytes} {offset : Nat}
    (h : HoldsAt block offset (encodeElements (element :: rest))) :
    HoldsAt block offset element ∧
      (rest ≠ [] → HoldsAt block (offset + Bytes.ceil4 element.length) (encodeElements rest)) := by
  cases rest with
  | nil => exact ⟨h, fun hne => absurd rfl hne⟩
  | cons next rest =>
      have hsplit : HoldsAt block offset
          (Bytes.pad4 element ++ encodeElements (next :: rest)) := h
      exact ⟨hsplit.left.of_pad4, fun _ => hsplit.behind_pad4⟩

theorem length_encodeElements_cons (element : Bytes) {rest : List Bytes} (h : rest ≠ []) :
    (encodeElements (element :: rest)).length =
      Bytes.ceil4 element.length + (encodeElements rest).length := by
  cases rest with
  | nil => exact absurd rfl h
  | cons next rest => rw [encodeElements, List.length_append, Bytes.length_pad4]; simp

/-- The walk over a written table gives the stored entries and ends behind the last element. -/
theorem decodeFrom_written {block : Bytes} (hblock : block.length < UInt32.size)
    (entries : List SequenceEntry) (index offset used : Nat)
    (hcodes : ∀ e ∈ entries, e.description.HasCodes)
    (hranges : HoldsAt block (12 + index * 8) (Bytes.encodeRanges offset (entries.map encodeEntry)))
    (helements : entries ≠ [] → HoldsAt block offset (encodeElements (entries.map encodeEntry)))
    (hbehind : 12 + (index + entries.length) * 8 ≤ offset)
    (hempty : entries = [] → offset ≤ used) :
    decodeFrom block entries.length index used =
      .ok (entries.map storedEntry,
        max used (offset + (encodeElements (entries.map encodeEntry)).length)) := by
  induction entries generalizing index offset used with
  | nil =>
      have hoffset := hempty rfl
      have hmax : max used (offset + (encodeElements ([].map encodeEntry)).length) = used := by
        simp [encodeElements]
        omega
      rw [hmax]
      rfl
  | cons entry rest ih =>
      obtain ⟨helement, hnext⟩ := holdsAt_encodeElements (helements (List.cons_ne_nil entry rest))
      have hend := helement.le_length
      have hrow : HoldsAt block (12 + index * 8)
          (Bytes.ofSize offset ++ Bytes.ofSize (encodeEntry entry).length
            ++ Bytes.encodeRanges (offset + Bytes.ceil4 (encodeEntry entry).length)
              (rest.map encodeEntry)) := hranges
      have hoffset := hrow.left.left.u32At?
      have hsizeAt : HoldsAt block (16 + index * 8) (Bytes.ofSize (encodeEntry entry).length) :=
        hrow.left.behind (by simp; omega)
      have hsize := hsizeAt.u32At?
      have hdescription := decodeDescription_encode (hcodes entry List.mem_cons_self)
        (by rw [length_encodeEntry] at hend; omega)
      obtain ⟨hdrop, hid⟩ := entry_of_element entry
      rw [List.length_cons] at hbehind
      -- a range ends in front of the elements, so its element decides
      have hsmall : max (max used (20 + index * 8)) (offset + (encodeEntry entry).length) =
          max used (offset + (encodeEntry entry).length) := by omega
      have hrest := ih (index + 1) (offset + Bytes.ceil4 (encodeEntry entry).length)
        (max used (offset + (encodeEntry entry).length))
        (fun e he => hcodes e (List.mem_cons_of_mem entry he))
        (hrow.behind (by simp; omega))
        (fun hne => hnext (by simpa using hne))
        (by
          have hceil := Bytes.le_ceil4 (encodeEntry entry).length
          omega)
      rw [List.length_cons, decodeFrom, hoffset, hsize]
      simp only [UInt32.toNat_ofNat_of_lt' (show offset < UInt32.size by omega),
        UInt32.toNat_ofNat_of_lt' (show (encodeEntry entry).length < UInt32.size by omega),
        element?_of_holdsAt helement, hdrop, hdescription, hid, hsmall, bind, Except.bind]
      -- the last element is not padded, so the end of the walk is taken apart
      cases rest with
      | nil => rfl
      | cons next rest =>
          have hlength : (encodeElements ((entry :: next :: rest).map encodeEntry)).length =
              Bytes.ceil4 (encodeEntry entry).length
                + (encodeElements ((next :: rest).map encodeEntry)).length :=
            length_encodeElements_cons _ (List.cons_ne_nil _ _)
          have hceil := Bytes.le_ceil4 (encodeEntry entry).length
          have htotal : max (max used (offset + (encodeEntry entry).length))
              (offset + Bytes.ceil4 (encodeEntry entry).length
                + (encodeElements ((next :: rest).map encodeEntry)).length) =
              max used (offset
                + (encodeElements ((entry :: next :: rest).map encodeEntry)).length) := by
            rw [hlength]
            omega
          rw [hrest (fun h => absurd h (List.cons_ne_nil next rest)), htotal]
          rfl

/-! ## The block -/

/-- The length of what stands in front of the elements. -/
theorem length_table (s : ProfileSequence) :
    (blockHead Signature.typeSequence ++ Bytes.ofSize s.entries.length
      ++ Bytes.encodeRanges (12 + s.entries.length * 8) (s.entries.map encodeEntry)).length =
        12 + s.entries.length * 8 := by
  simp only [blockHead, List.length_append, Bytes.length_ofWord32, Bytes.length_ofSize,
    Bytes.length_encodeRanges, List.length_map, List.length_cons, List.length_nil]

/-- The parts of a written block with their places. -/
theorem holdsAt_encode (s : ProfileSequence) :
    HoldsAt s.encode 0 (Bytes.ofWord32 Signature.typeSequence) ∧
      HoldsAt s.encode 8 (Bytes.ofSize s.entries.length) ∧
      HoldsAt s.encode 12
        (Bytes.encodeRanges (12 + s.entries.length * 8) (s.entries.map encodeEntry)) ∧
      HoldsAt s.encode (12 + s.entries.length * 8)
        (encodeElements (s.entries.map encodeEntry)) := by
  have hall := Bytes.holdsAt_self s.encode
  refine ⟨hall.left.left.left.left, ?_, ?_, ?_⟩
  · exact hall.left.left.behind (by simp [blockHead])
  · exact hall.left.behind (by simp [blockHead])
  · exact hall.behind (by rw [length_table, Nat.zero_add])

/-- Reading a written block gives what storage keeps, and uses all of it. -/
theorem decode_encode {s : ProfileSequence} (hcodes : s.HasCodes)
    (hlength : s.encode.length < UInt32.size) :
    decode s.encode = .ok (s.stored, s.encode.length) := by
  obtain ⟨-, hcount, hranges, helements⟩ := holdsAt_encode s
  have htotal : s.encode.length =
      12 + s.entries.length * 8 + (encodeElements (s.entries.map encodeEntry)).length := by
    rw [encode, List.length_append, length_table]
  -- the table starts behind the count, the elements behind the table
  have hwalk := decodeFrom_written hlength s.entries 0 (12 + s.entries.length * 8) 12 hcodes
    hranges (fun _ => helements) (by omega) (by
      intro hnil
      simp [hnil])
  have hused : max 12 (12 + s.entries.length * 8
      + (encodeElements (s.entries.map encodeEntry)).length) = s.encode.length := by omega
  rw [decode, hcount.u32At?]
  simp only [UInt32.toNat_ofNat_of_lt' (show s.entries.length < UInt32.size by omega), hwalk, hused]
  rfl

end IccProfile.ProfileSequence
