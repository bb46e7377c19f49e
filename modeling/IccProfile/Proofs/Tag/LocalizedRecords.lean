import IccProfile.Proofs.Bytes
import IccProfile.Proofs.Tag.Localized
import IccProfile.Proofs.Text.Surrogates
import Mathlib.Data.List.Forall2

/-!
# Damaged localized text

An `mluc` block says itself how many records it has and where their strings are, and none of it
needs to be true. Reading gives the strings of the readable records in their order, whatever the
records say (`LocalizedText.decode_best_effort`).

A record is read on its own: its entry is a function of its bytes and those of its string
(`entryAt?_eq_some_iff`, `entryAt?_congr`). The loop over the records carries that it has the
entries of all records before its index (`Walk.entries_after`, `Walk.entries_run`), and each
iteration that does not leave it needs another record inside the block (`Walk.iterations_le`).
-/

set_option autoImplicit false

namespace IccProfile.LocalizedText

variable {block other : Bytes} {size i : Nat} {s : LocalizedString}

/-- The number of records that a block says to have. -/
def recordCount (block : Bytes) : Nat := (Bytes.wordAt block 8).toNat

/-- The distance between the records of a block. -/
def recordStep (block : Bytes) : Nat := (Bytes.wordAt block 12).toNat

/-- The offset of the string of a record. -/
def stringPlace (block : Bytes) (size i : Nat) : Nat :=
  (Bytes.wordAt block (place size i + 8)).toNat

/-- The length of the string of a record. -/
def stringSize (block : Bytes) (size i : Nat) : Nat :=
  (Bytes.wordAt block (place size i + 4)).toNat

/-- The units of the string of a record before the first zero. -/
def storedUnits (block : Bytes) (size i : Nat) : List UInt16 :=
  Text.textUnits ((block.drop (stringPlace block size i)).take (stringSize block size i))

/-- A record lies in the block, and so does its string, which has no surrogate without its
partner. -/
structure Readable (block : Bytes) (size i : Nat) : Prop where
  record : place size i + recordSize ≤ block.length
  string : stringPlace block size i + stringSize block size i ≤ block.length
  paired : ∀ j, ¬ Text.UnpairedAt (storedUnits block size i) j

/-- A string has the codes of a record and the units that are stored for it. -/
structure Recorded (block : Bytes) (size i : Nat) (s : LocalizedString) : Prop where
  language : s.language = Text.ofBytes ((block.drop (place size i)).take 2)
  country : s.country = Text.ofBytes ((block.drop (place size i + 2)).take 2)
  text : s.text.toList.flatMap Text.unitsOfChar = storedUnits block size i

/-- Two blocks hold the same bytes in a record and in its string. -/
structure SameRecord (block other : Bytes) (size i : Nat) : Prop where
  record : ∀ j, place size i ≤ j → j < place size i + recordSize → block[j]? = other[j]?
  string : ∀ j, stringPlace block size i ≤ j →
    j < stringPlace block size i + stringSize block size i → block[j]? = other[j]?

/-- Two blocks of one length have the same records and strings but for one record. -/
structure DifferAt (block other : Bytes) (k : Nat) : Prop where
  length : block.length = other.length
  count : recordCount block = recordCount other
  step : recordStep block = recordStep other
  same : ∀ i < recordCount block, i ≠ k → place (recordStep block) i + recordSize ≤ block.length →
    SameRecord block other (recordStep block) i

/-! ## One record -/

/-- The entry of the record with an index. -/
def entryAt? (block : Bytes) (size i : Nat) : Option LocalizedString :=
  (Bytes.slice? block (place size i) recordSize).bind (entryOf? block)

section Record

variable {record : Bytes} (h : Bytes.slice? block (place size i) recordSize = some record)
include h

/-- A record that was read as a whole has the words of its place in the block. -/
theorem string_of_slice? :
    stringOffset record = stringPlace block size i ∧
      stringLength record = stringSize block size i := by
  have hword {n : Nat} (hn : n + 4 ≤ recordSize) :
      Bytes.wordAt record n = Bytes.wordAt block (place size i + n) := by
    rw [Bytes.wordAt, Bytes.u32At?, Bytes.slice?_of_slice? h hn, Bytes.wordAt, Bytes.u32At?]
  rw [stringOffset, stringLength, hword (by decide), hword (by decide), stringPlace, stringSize]
  exact ⟨rfl, rfl⟩

theorem codes_of_slice? :
    record.take 2 = (block.drop (place size i)).take 2 ∧
      (record.drop 2).take 2 = (block.drop (place size i + 2)).take 2 := by
  obtain ⟨-, rfl⟩ := Bytes.slice?_eq_some_iff.mp h
  rw [List.take_take, List.drop_take, List.take_take, List.drop_drop]
  exact ⟨rfl, rfl⟩

theorem stringBytes?_of_slice? :
    stringBytes? block record =
      Bytes.slice? block (stringPlace block size i) (stringSize block size i) := by
  obtain ⟨hplace, hsize⟩ := string_of_slice? h
  rw [stringBytes?, hplace, hsize]

end Record

/-- A record has an entry exactly when it is readable, and this is the string that it records. -/
theorem entryAt?_eq_some_iff :
    entryAt? block size i = some s ↔ Readable block size i ∧ Recorded block size i s := by
  constructor
  · intro h
    obtain ⟨record, hrecord, hentry⟩ := Option.bind_eq_some_iff.mp h
    obtain ⟨stored, hstored, hentry⟩ := Option.bind_eq_some_iff.mp hentry
    obtain ⟨text, htext, hentry⟩ := Option.bind_eq_some_iff.mp hentry
    obtain rfl := Option.some.inj hentry
    rw [stringBytes?_of_slice? hrecord] at hstored
    obtain ⟨hstring, rfl⟩ := Bytes.slice?_eq_some_iff.mp hstored
    obtain ⟨hpaired, hunits⟩ := Text.ofUtf16?_eq_some_iff.mp htext
    obtain ⟨hlanguage, hcountry⟩ := codes_of_slice? hrecord
    exact ⟨⟨(Bytes.slice?_eq_some_iff.mp hrecord).1, hstring, hpaired⟩,
      congrArg Text.ofBytes hlanguage, congrArg Text.ofBytes hcountry, hunits⟩
  · rintro ⟨hreadable, hrecorded⟩
    have hrecord := Bytes.slice?_of_le hreadable.record
    have hstored := (stringBytes?_of_slice? hrecord).trans (Bytes.slice?_of_le hreadable.string)
    have htext := Text.ofUtf16?_eq_some_iff.mpr ⟨hreadable.paired, hrecorded.text⟩
    obtain ⟨hlanguage, hcountry⟩ := codes_of_slice? hrecord
    rw [entryAt?, hrecord, Option.bind_some, entryOf?, hstored, hlanguage, hcountry,
      ← hrecorded.language, ← hrecorded.country]
    simp only [Option.bind_eq_bind, Option.bind_some, htext]
    rfl

theorem isSome_entryAt?_iff : (entryAt? block size i).isSome = true ↔ Readable block size i := by
  rw [Option.isSome_iff_exists]
  constructor
  · rintro ⟨s, hs⟩
    exact (entryAt?_eq_some_iff.mp hs).1
  · intro h
    obtain ⟨text, htext⟩ := Text.exists_ofUtf16? h.paired
    have hunits := (Text.ofUtf16?_eq_some_iff.mp htext).2
    exact ⟨⟨_, _, text⟩, entryAt?_eq_some_iff.mpr ⟨h, rfl, rfl, hunits⟩⟩

instance : Decidable (Readable block size i) := decidable_of_iff _ isSome_entryAt?_iff

theorem entryAt?_outside (h : ¬ place size i + recordSize ≤ block.length) :
    entryAt? block size i = none := by
  rw [entryAt?, Bytes.slice?, if_neg h, Option.bind_none]

/-- Behind a record that is not inside the block there is none that is. -/
theorem entryAt?_behind (h : Bytes.slice? block (place size i) recordSize = none) {j : Nat}
    (hj : i ≤ j) : entryAt? block size j = none := by
  have hplace : place size i ≤ place size j := Nat.add_le_add_left (Nat.mul_le_mul_right size hj) 16
  apply entryAt?_outside
  intro hinside
  rw [Bytes.slice?_of_le (by omega)] at h
  cases h

/-- A record is read as in a block of the same length that has the same record. -/
theorem entryAt?_congr (hlength : block.length = other.length)
    (h : place size i + recordSize ≤ block.length → SameRecord block other size i) :
    entryAt? block size i = entryAt? other size i := by
  by_cases hinside : place size i + recordSize ≤ block.length
  · have hsame := h hinside
    have hrecord := Bytes.slice?_of_le hinside
    have hother := (Bytes.slice?_congr hlength hsame.record).symm.trans hrecord
    obtain ⟨hplace, hsize⟩ := string_of_slice? hrecord
    -- the record says in both blocks where its string is
    have hstring := Bytes.slice?_congr hlength hsame.string
    rw [← hplace, ← hsize] at hstring
    rw [entryAt?, entryAt?, hrecord, hother, Option.bind_some, Option.bind_some, entryOf?, entryOf?,
      stringBytes?, stringBytes?, hstring]
  · rw [entryAt?_outside hinside, entryAt?_outside (hlength ▸ hinside)]

theorem filterMap_singleton {α β : Type} (f : α → Option β) (a : α) :
    [a].filterMap f = (f a).toList := by
  rw [List.filterMap_eq_flatMap_toList, List.flatMap_singleton]

/-! ## The loop over the records -/

namespace Walk

variable {w : Walk}

/-- An iteration that goes on has the entry of its record next to those before it. -/
theorem entries_after {record : Bytes}
    (h : w.entries = (List.range w.index).filterMap (entryAt? block size))
    (hrecord : Bytes.slice? block (place size w.index) recordSize = some record) :
    (w.after block size record).entries =
      (List.range (w.after block size record).index).filterMap (entryAt? block size) := by
  have hentry : entryAt? block size w.index = entryOf? block record := by
    rw [entryAt?, hrecord, Option.bind_some]
  simp only [after, List.range_succ, List.filterMap_append, ← h, ← hentry, filterMap_singleton]

/-- The loop has the entries of all records in the end, also when it was left early. -/
theorem entries_run (h : w.entries = (List.range w.index).filterMap (entryAt? block size))
    (left : Nat) :
    (w.run block size left).1.entries =
      (List.range (w.index + left)).filterMap (entryAt? block size) := by
  induction left generalizing w with
  | zero => exact h
  | succ left ih =>
      cases hrecord : Bytes.slice? block (place size w.index) recordSize with
      | none =>
          have hrest : ((List.range (left + 1)).map (w.index + ·)).filterMap
              (entryAt? block size) = [] := by
            rw [List.filterMap_eq_nil_iff]
            intro i hi
            obtain ⟨j, -, rfl⟩ := List.mem_map.mp hi
            exact entryAt?_behind hrecord (Nat.le_add_right ..)
          rw [run_of_none hrecord, h, List.range_add, List.filterMap_append, hrest,
            List.append_nil]
      | some record =>
          rw [run_of_some hrecord, ih (entries_after h hrecord), after, Nat.add_assoc,
            Nat.add_comm 1]

/-- Every iteration but the last one needs a record of its own inside the block. -/
theorem iterations_le (hsize : recordSize ≤ size)
    (h : w.index ≤ (block.length - 16) / size + 1) (left : Nat) :
    w.index + (w.run block size left).2 ≤ (block.length - 16) / size + 2 := by
  induction left generalizing w with
  | zero => exact Nat.le_succ_of_le h
  | succ left ih =>
      cases hrecord : Bytes.slice? block (place size w.index) recordSize with
      | none =>
          rw [run_of_none hrecord]
          exact Nat.succ_le_succ h
      | some record =>
          have hinside : w.index * size ≤ block.length - 16 := by
            have hle := (Bytes.slice?_eq_some_iff.mp hrecord).1
            rw [place, recordSize] at hle
            omega
          have hindex : w.index ≤ (block.length - 16) / size :=
            (Nat.le_div_iff_mul_le (Nat.lt_of_lt_of_le (by decide) hsize)).mpr hinside
          have hnext := ih (w := w.after block size record) (Nat.succ_le_succ hindex)
          have hgo : (w.after block size record).index = w.index + 1 := rfl
          rw [hgo] at hnext
          rw [run_of_some hrecord]
          omega

end Walk

/-- The loop over the records of a block. -/
def walk (block : Bytes) : Walk × Nat :=
  Walk.start.run block (recordStep block) (recordCount block)

/-- Reading a block is the loop over its records. -/
theorem decode_eq_walk (hlength : 16 ≤ block.length) (hsize : recordSize ≤ recordStep block) :
    decode block = .ok (⟨(walk block).1.entries⟩, (walk block).1.used) := by
  obtain ⟨count, hcount⟩ := Bytes.exists_u32At? (show 8 + 4 ≤ block.length by omega)
  obtain ⟨step, hstep⟩ := Bytes.exists_u32At? (show 12 + 4 ≤ block.length by omega)
  have hcount' : recordCount block = count.toNat := by
    rw [recordCount, Bytes.wordAt, hcount, Option.getD_some]
  have hstep' : recordStep block = step.toNat := by
    rw [recordStep, Bytes.wordAt, hstep, Option.getD_some]
  have hwide : ¬ step.toNat < recordSize := by
    rw [← hstep']
    exact Nat.not_lt.mpr hsize
  simp only [decode, hcount, hstep, if_neg hwide]
  rw [walk, hcount', hstep']

theorem entries_walk (block : Bytes) :
    (walk block).1.entries =
      (List.range (recordCount block)).filterMap (entryAt? block (recordStep block)) := by
  rw [walk, Walk.entries_run rfl, Walk.start, Nat.zero_add]

/-- The entries that a list of records has are those of its readable records, in their order. -/
theorem forall₂_recorded (block : Bytes) (size : Nat) (indexes : List Nat) :
    List.Forall₂ (Recorded block size) (indexes.filter (Readable block size))
      (indexes.filterMap (entryAt? block size)) := by
  induction indexes with
  | nil => exact .nil
  | cons i rest ih =>
      cases hentry : entryAt? block size i with
      | none =>
          have hunreadable : ¬ Readable block size i := by
            rw [← isSome_entryAt?_iff, hentry]
            exact Bool.false_ne_true
          have hfilter : (i :: rest).filter (Readable block size) =
              rest.filter (Readable block size) :=
            List.filter_cons_of_neg (mt of_decide_eq_true hunreadable)
          rw [hfilter, List.filterMap_cons_none hentry]
          exact ih
      | some s =>
          obtain ⟨hreadable, hrecorded⟩ := entryAt?_eq_some_iff.mp hentry
          have hfilter : (i :: rest).filter (Readable block size) =
              i :: rest.filter (Readable block size) :=
            List.filter_cons_of_pos (decide_eq_true hreadable)
          rw [hfilter, List.filterMap_cons_some hentry]
          exact .cons hrecorded ih

/-- A record changes the entries only in its own place. -/
theorem entries_of_differAt {k : Nat} (h : DifferAt block other k) (hk : k < recordCount block) :
    ∃ front back,
      (walk block).1.entries =
        front ++ (entryAt? block (recordStep block) k).toList ++ back ∧
      (walk other).1.entries =
        front ++ (entryAt? other (recordStep other) k).toList ++ back := by
  obtain ⟨behind, hcount⟩ := Nat.exists_eq_add_of_le hk
  have hothers (indexes : List Nat) (hne : ∀ i ∈ indexes, i < recordCount block ∧ i ≠ k) :
      indexes.filterMap (entryAt? other (recordStep other)) =
        indexes.filterMap (entryAt? block (recordStep block)) :=
    List.filterMap_congr fun i hi => by
      rw [← h.step, entryAt?_congr h.length (h.same i (hne i hi).1 (hne i hi).2)]
  have hfront := hothers (List.range k) fun i hi => by
    have hlt := List.mem_range.mp hi
    omega
  have hback := hothers ((List.range behind).map (k.succ + ·)) fun i hi => by
    obtain ⟨j, hj, rfl⟩ := List.mem_map.mp hi
    have hlt := List.mem_range.mp hj
    omega
  refine ⟨(List.range k).filterMap (entryAt? block (recordStep block)),
    ((List.range behind).map (k.succ + ·)).filterMap (entryAt? block (recordStep block)), ?_, ?_⟩
  · rw [entries_walk, hcount, List.range_add, List.range_succ, List.filterMap_append,
      List.filterMap_append, filterMap_singleton]
  · rw [entries_walk, ← h.count, hcount, List.range_add, List.range_succ, List.filterMap_append,
      List.filterMap_append, filterMap_singleton, hfront, hback]

/-- Reading localized text is best effort and bounded. A block with room for its count and its
record size is read, whatever the count is, unless it says that records are shorter than they are.
The entries are, in the order of the table, the strings of just the readable records. Bytes that
only one record has to do with change no other entry, whether they make this record unreadable or
not. The length of the block bounds the iterations of the loop, and the count does not. -/
theorem decode_best_effort (hlength : 16 ≤ block.length) (hsize : recordSize ≤ recordStep block) :
    decode block = .ok (⟨(walk block).1.entries⟩, (walk block).1.used) ∧
      List.Forall₂ (Recorded block (recordStep block))
        ((List.range (recordCount block)).filter (Readable block (recordStep block)))
        (walk block).1.entries ∧
      (∀ k < recordCount block, ∀ other, DifferAt block other k →
        ∃ front back : List LocalizedString, ∃ own own' : Option LocalizedString, ∃ used',
          (walk block).1.entries = front ++ own.toList ++ back ∧
          (own.isSome ↔ Readable block (recordStep block) k) ∧
          decode other = .ok (⟨front ++ own'.toList ++ back⟩, used') ∧
          (own'.isSome ↔ Readable other (recordStep other) k)) ∧
      (walk block).2 ≤ (block.length - 16) / recordStep block + 2 := by
  refine ⟨decode_eq_walk hlength hsize, ?_, fun k hk other hdiffer => ?_, ?_⟩
  · rw [entries_walk]
    exact forall₂_recorded ..
  · obtain ⟨front, back, hentries, hother⟩ := entries_of_differAt hdiffer hk
    refine ⟨front, back, _, _, (walk other).1.used, hentries, isSome_entryAt?_iff, ?_,
      isSome_entryAt?_iff⟩
    rw [← hother]
    exact decode_eq_walk (hdiffer.length ▸ hlength) (hdiffer.step ▸ hsize)
  · have hbound : 0 + (walk block).2 ≤ (block.length - 16) / recordStep block + 2 :=
      Walk.iterations_le (w := .start) hsize (Nat.zero_le _) (recordCount block)
    rwa [Nat.zero_add] at hbound

/-- A block that says to have more records than any block has room for. The string of its second
record is outside, that of its third record is half a pair. -/
def ragged : Bytes :=
  [0x6d, 0x6c, 0x75, 0x63, 0, 0, 0, 0, 0xff, 0xff, 0xff, 0xff, 0, 0, 0, 12,
    0x65, 0x6e, 0x55, 0x53, 0, 0, 0, 2, 0, 0, 0, 64,
    0x64, 0x65, 0x44, 0x45, 0, 0, 0, 2, 0xff, 0xff, 0xff, 0,
    0x6a, 0x61, 0x4a, 0x50, 0, 0, 0, 2, 0, 0, 0, 66,
    0x66, 0x72, 0, 0, 0, 0, 0, 5, 0, 0, 0, 68,
    0, 0x48, 0xd8, 0, 0xd8, 0x34, 0xdd, 0x1e, 0]

/-- The same block with the string of the second record inside. -/
def mended : Bytes := Bytes.patch ragged 36 [0, 0, 0, 64]

theorem differAt_mended : DifferAt ragged mended 1 where
  length := by decide +kernel
  count := by decide +kernel
  step := by decide +kernel
  same := by
    have hbytes : ∀ i < 4, i ≠ 1 →
        (∀ j, place 12 i ≤ j → j < place 12 i + recordSize → ragged[j]? = mended[j]?) ∧
          ∀ j, stringPlace ragged 12 i ≤ j → j < stringPlace ragged 12 i + stringSize ragged 12 i →
            ragged[j]? = mended[j]? := by decide +kernel
    have hstep : recordStep ragged = 12 := by decide +kernel
    have hlength : ragged.length = 73 := by decide +kernel
    rw [hstep, hlength]
    intro i _ hne hinside
    rw [place, recordSize] at hinside
    obtain ⟨hrecord, hstring⟩ := hbytes i (by omega) hne
    exact ⟨hrecord, hstring⟩

/-- The unreadable records hide no other, and mending one of them alters no other. -/
theorem decode_best_effort_ragged :
    ∃ used used' front back own,
      decode ragged = .ok (⟨front ++ back⟩, used) ∧
      front ++ back = [⟨"en", "US", "H"⟩, ⟨"fr", "", "𝄞"⟩] ∧
      decode mended = .ok (⟨front ++ [own] ++ back⟩, used') ∧ (walk ragged).2 ≤ 6 := by
  obtain ⟨hdecode, -, hisolated, hbound⟩ :=
    decode_best_effort (show 16 ≤ ragged.length by decide +kernel) (by decide +kernel)
  obtain ⟨front, back, own, own', used', hentries, hown, hmended, hown'⟩ :=
    hisolated 1 (by decide +kernel) mended differAt_mended
  have hnone : own = none := by
    rw [← Option.not_isSome_iff_eq_none, hown]
    decide +kernel
  obtain ⟨s, rfl⟩ := Option.isSome_iff_exists.mp (hown'.mpr (by decide +kernel))
  rw [hnone, Option.toList_none, List.append_nil] at hentries
  refine ⟨_, used', front, back, s, hentries ▸ hdecode, hentries.symm.trans ?_, hmended, ?_⟩
  · decide +kernel
  · refine hbound.trans ?_
    decide +kernel

end IccProfile.LocalizedText
