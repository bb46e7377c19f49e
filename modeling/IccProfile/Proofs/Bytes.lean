import IccProfile.Bytes

/-!
# Parts of byte strings

A written form is a concatenation and a reader takes parts out of it at computed
offsets. `HoldsAt bs offset part` says that `part` stands in `bs` from `offset` on;
it splits along a concatenation (`HoldsAt.left`, `HoldsAt.right`) and gives what each
bounded read returns (`HoldsAt.u32At?`); a number is read just where its bytes stand
(`u32At?_eq_some_iff`). So a walk over a table carries one fact, the place of the rest of
the table. A read that a beginning of the bytes has room for gives
there what it gives of the whole (`slice?_take`), and the beginning is cut into the first
of the pieces (`chunks_take`).

The second half is the algebra of the overwrite `patch`: byte by byte
(`getElem?_patch`), at one place twice (`patch_patch`), at two places in either order
(`patch_comm`), and inside the first part of a concatenation (`patch_append`).
-/

set_option autoImplicit false

namespace IccProfile.Bytes

variable {bs part a b : Bytes} {offset : Nat}

/-! ## Stored words -/

/-- A stored size reads as the size modulo the width. -/
theorem ofNat_toNat_ofSize (n : Nat) : UInt32.ofNat (toNat (ofSize n)) = UInt32.ofNat n := by
  apply UInt32.toNat_inj.mp
  rw [ofSize, toNat_ofNat]
  simp [capacity]

theorem ofNat_toNat_ofWord32 (w : UInt32) : UInt32.ofNat (toNat (ofWord32 w)) = w := by
  have hword := ofNat_toNat_ofSize w.toNat
  rwa [UInt32.ofNat_toNat] at hword

/-! ## Parts at an offset -/

/-- The part stands in the byte string from the offset on. -/
def HoldsAt (bs : Bytes) (offset : Nat) (part : Bytes) : Prop :=
  slice? bs offset part.length = some part

theorem holdsAt_iff :
    HoldsAt bs offset part ↔
      ∃ before after, bs = before ++ (part ++ after) ∧ before.length = offset := by
  constructor
  · intro h
    obtain ⟨hle, hpart⟩ := slice?_eq_some_iff.mp h
    -- the part lies between the bytes in front of it and those behind it
    refine ⟨bs.take offset, bs.drop (offset + part.length), ?_, ?_⟩
    · have hrest : bs.drop offset = part ++ bs.drop (offset + part.length) := by
        calc bs.drop offset
            = (bs.drop offset).take part.length ++ (bs.drop offset).drop part.length :=
              (List.take_append_drop ..).symm
          _ = part ++ bs.drop (offset + part.length) := by rw [← hpart, List.drop_drop]
      rw [← hrest, List.take_append_drop]
    · rw [List.length_take]
      omega
  · rintro ⟨before, after, rfl, rfl⟩
    apply slice?_eq_some_iff.mpr
    constructor
    · simp only [List.length_append]
      omega
    · rw [List.drop_left, List.take_left]

/-- A part of a concatenation stands behind what is in front of it. -/
theorem holdsAt_append (before part after : Bytes) :
    HoldsAt (before ++ (part ++ after)) before.length part :=
  holdsAt_iff.mpr ⟨before, after, rfl, rfl⟩

theorem holdsAt_self (bs : Bytes) : HoldsAt bs 0 bs :=
  holdsAt_iff.mpr ⟨[], [], by simp, rfl⟩

/-- The last part of a concatenation stands at its end. -/
theorem holdsAt_append_right (before part : Bytes) :
    HoldsAt (before ++ part) before.length part := by
  simpa using holdsAt_append before part []

namespace HoldsAt

theorem le_length (h : HoldsAt bs offset part) : offset + part.length ≤ bs.length :=
  (slice?_eq_some_iff.mp h).1

/-- The first of two parts stands at the same place. -/
theorem left (h : HoldsAt bs offset (a ++ b)) : HoldsAt bs offset a := by
  obtain ⟨before, after, rfl, hlength⟩ := holdsAt_iff.mp h
  exact holdsAt_iff.mpr ⟨before, b ++ after, by simp, hlength⟩

/-- The second of two parts stands behind the first. -/
theorem right (h : HoldsAt bs offset (a ++ b)) : HoldsAt bs (offset + a.length) b := by
  obtain ⟨before, after, rfl, rfl⟩ := holdsAt_iff.mp h
  exact holdsAt_iff.mpr ⟨before ++ a, after, by simp, by simp⟩

/-- The second of two parts, at an offset that was computed otherwise. -/
theorem behind {place : Nat} (h : HoldsAt bs offset (a ++ b))
    (hplace : place = offset + a.length) : HoldsAt bs place b := by
  subst hplace
  exact h.right

/-- A part of a part is a part. -/
theorem trans {inner : Nat} (h : HoldsAt bs offset a) (hb : HoldsAt a inner b) :
    HoldsAt bs (offset + inner) b := by
  obtain ⟨front, back, rfl, rfl⟩ := holdsAt_iff.mp hb
  exact h.right.left

/-- A padded part stands where its padding leaves it. -/
theorem of_pad4 (h : HoldsAt bs offset (pad4 a)) : HoldsAt bs offset a := h.left

theorem behind_pad4 (h : HoldsAt bs offset (pad4 a ++ b)) :
    HoldsAt bs (offset + ceil4 a.length) b :=
  h.behind (by rw [length_pad4])

theorem slice? {size : Nat} (h : HoldsAt bs offset part) (hsize : size = part.length) :
    Bytes.slice? bs offset size = some part := by
  subst hsize
  exact h

/-- Reading a stored size gives it modulo the width. -/
theorem u32At? {n : Nat} (h : HoldsAt bs offset (ofSize n)) :
    Bytes.u32At? bs offset = some (UInt32.ofNat n) := by
  have hread : Bytes.slice? bs offset 4 = some (ofSize n) := h.slice? (length_ofSize n).symm
  rw [Bytes.u32At?, hread, Option.map_some, ofNat_toNat_ofSize]

/-- Reading a stored word gives it back. -/
theorem u32At?_word {w : UInt32} (h : HoldsAt bs offset (ofWord32 w)) :
    Bytes.u32At? bs offset = some w := by
  have hread : Bytes.u32At? bs offset = some (UInt32.ofNat w.toNat) := h.u32At?
  rw [hread, UInt32.ofNat_toNat]

theorem wordAt {n : Nat} (h : HoldsAt bs offset (ofSize n)) :
    Bytes.wordAt bs offset = UInt32.ofNat n := by
  rw [Bytes.wordAt, h.u32At?, Option.getD_some]

theorem wordAt_word {w : UInt32} (h : HoldsAt bs offset (ofWord32 w)) :
    Bytes.wordAt bs offset = w := by
  rw [Bytes.wordAt, h.u32At?_word, Option.getD_some]

end HoldsAt

/-- Two parts stand one behind the other exactly when each stands in its place. -/
theorem holdsAt_append_iff :
    HoldsAt bs offset (a ++ b) ↔ HoldsAt bs offset a ∧ HoldsAt bs (offset + a.length) b := by
  constructor
  · exact fun h => ⟨h.left, h.right⟩
  · rintro ⟨ha, hb⟩
    obtain ⟨before, after, rfl, rfl⟩ := holdsAt_iff.mp ha
    obtain ⟨front, back, heq, hlength⟩ := holdsAt_iff.mp hb
    -- in front of the second part there is what is in front of the first, and the first
    have hsame : (before ++ a) ++ after = front ++ (b ++ back) := by
      rw [List.append_assoc, heq]
    obtain ⟨rfl, rfl⟩ := List.append_inj hsame (by rw [List.length_append, hlength])
    exact holdsAt_iff.mpr ⟨before, back, by simp only [List.append_assoc], rfl⟩

/-! ## Multiples of four -/

/-- Padding commutes with a start at a multiple of four. -/
theorem ceil4_add {start : Nat} (h : start % 4 = 0) (n : Nat) :
    ceil4 (start + n) = start + ceil4 n := by
  unfold ceil4
  omega

theorem ceil4_mod (n : Nat) : ceil4 n % 4 = 0 := by
  unfold ceil4
  omega

/-! ## Reads that agree -/

/-- A bounded read depends on the length and on the bytes of its range. -/
theorem slice?_congr {size : Nat} (hlength : a.length = b.length)
    (hbytes : ∀ i, offset ≤ i → i < offset + size → a[i]? = b[i]?) :
    slice? a offset size = slice? b offset size := by
  unfold slice?
  rw [hlength]
  split
  · congr 1
    -- both reads take the same bytes, one place at a time
    apply List.ext_getElem?
    intro i
    rw [List.getElem?_take, List.getElem?_take]
    split
    · rw [List.getElem?_drop, List.getElem?_drop]
      exact hbytes _ (by omega) (by omega)
    · rfl
  · rfl

/-! ## Reads of a part -/

/-- A range that lies in a byte string is a bounded read. -/
theorem slice?_of_le {size : Nat} (h : offset + size ≤ bs.length) :
    slice? bs offset size = some ((bs.drop offset).take size) := if_pos h

theorem slice?_self (bs : Bytes) : slice? bs 0 bs.length = some bs := by
  simp [slice?]

/-- A range is the written form of the number that it reads as. -/
theorem ofNat_toNat_of_slice? {size : Nat} (h : slice? bs offset size = some part) :
    ofNat size (toNat part) = part := by
  obtain rfl := length_of_slice? h
  exact ofNat_toNat part

/-- A number is read where its bytes stand. -/
theorem holdsAt_ofNat_iff {size n : Nat} (hn : n < capacity size) :
    HoldsAt bs offset (ofNat size n) ↔
      ∃ part, slice? bs offset size = some part ∧ toNat part = n := by
  constructor
  · intro h
    refine ⟨ofNat size n, h.slice? (length_ofNat ..).symm, ?_⟩
    rw [toNat_ofNat, Nat.mod_eq_of_lt hn]
  · rintro ⟨part, hread, rfl⟩
    rw [HoldsAt, length_ofNat, ofNat_toNat_of_slice? hread, hread]

theorem u16At?_eq_some_iff {w : UInt16} :
    u16At? bs offset = some w ↔ HoldsAt bs offset (ofWord16 w) := by
  rw [ofWord16, holdsAt_ofNat_iff w.toNat_lt, u16At?, Option.map_eq_some_iff]
  refine exists_congr fun part => and_congr_right fun hread => ?_
  have hlt : toNat part < UInt16.size := by
    have hlt := toNat_lt part
    rwa [length_of_slice? hread] at hlt
  rw [← UInt16.toNat_inj, UInt16.toNat_ofNat_of_lt' hlt]

theorem u32At?_eq_some_iff {w : UInt32} :
    u32At? bs offset = some w ↔ HoldsAt bs offset (ofWord32 w) := by
  rw [ofWord32, holdsAt_ofNat_iff w.toNat_lt, u32At?, Option.map_eq_some_iff]
  refine exists_congr fun part => and_congr_right fun hread => ?_
  have hlt : toNat part < UInt32.size := by
    have hlt := toNat_lt part
    rwa [length_of_slice? hread] at hlt
  rw [← UInt32.toNat_inj, UInt32.toNat_ofNat_of_lt' hlt]

theorem exists_u16At? (h : offset + 2 ≤ bs.length) : ∃ w, u16At? bs offset = some w :=
  ⟨_, congrArg _ (slice?_of_le h)⟩

/-- A word that is not all there is not read. -/
theorem u16At?_of_lt (h : bs.length < offset + 2) : u16At? bs offset = none := by
  rw [u16At?, slice?, if_neg (Nat.not_le.mpr h), Option.map_none]

theorem exists_u32At? (h : offset + 4 ≤ bs.length) : ∃ w, u32At? bs offset = some w :=
  ⟨_, congrArg _ (slice?_of_le h)⟩

/-- The word that is read at a place stands there. -/
theorem holdsAt_wordAt (h : offset + 4 ≤ bs.length) :
    HoldsAt bs offset (ofWord32 (wordAt bs offset)) := by
  obtain ⟨w, hw⟩ := exists_u32At? h
  rw [wordAt, hw, Option.getD_some, ← u32At?_eq_some_iff, hw]

/-- Eight bytes are read as a word where it stands. -/
theorem word64_eq_iff {w : UInt64} (h : offset + 8 ≤ bs.length) :
    UInt64.ofNat (toNat ((bs.drop offset).take 8)) = w ↔ HoldsAt bs offset (ofWord64 w) := by
  have hread := slice?_of_le h
  have hlt : toNat ((bs.drop offset).take 8) < UInt64.size := by
    have hlt := toNat_lt ((bs.drop offset).take 8)
    rwa [length_of_slice? hread] at hlt
  rw [ofWord64, holdsAt_ofNat_iff w.toNat_lt, hread, ← UInt64.toNat_inj,
    UInt64.toNat_ofNat_of_lt' hlt]
  constructor
  · exact fun hw => ⟨_, rfl, hw⟩
  · rintro ⟨part, hpart, hw⟩
    rwa [Option.some.inj hpart]

/-- Two bytes that are there stand in their places. -/
theorem holdsAt_pair_iff {first second : UInt8} (h : offset + 2 ≤ bs.length) :
    HoldsAt bs offset [first, second] ↔
      bs.getD offset 0 = first ∧ bs.getD (offset + 1) 0 = second := by
  have hpair : (bs.drop offset).take 2 = [bs.getD offset 0, bs.getD (offset + 1) 0] := by
    rw [List.drop_eq_getElem_cons (by omega), List.drop_eq_getElem_cons (by omega)]
    simp only [List.take_succ_cons, List.take_zero, List.getD_eq_getElem?_getD,
      List.getElem?_eq_getElem (show offset < bs.length by omega),
      List.getElem?_eq_getElem (show offset + 1 < bs.length by omega), Option.getD_some]
  have hread := slice?_of_le h
  rw [hpair] at hread
  rw [HoldsAt, List.length_cons, List.length_singleton, hread, Option.some.injEq,
    List.cons.injEq, List.cons.injEq, and_iff_left rfl]

/-- A part that was read as a whole has the parts of its place. -/
theorem slice?_of_slice? {size : Nat} (h : slice? bs offset size = some part) {i n : Nat}
    (hi : i + n ≤ size) : slice? part i n = slice? bs (offset + i) n := by
  obtain ⟨hle, hpart⟩ := slice?_eq_some_iff.mp h
  have hlength := length_of_slice? h
  rw [slice?, slice?, if_pos (by omega), if_pos (by omega), hpart, List.drop_take,
    List.drop_drop, List.take_take, Nat.min_eq_left (by omega)]

/-- A word that is there is the one that its four bytes write. -/
theorem wordAt_eq_iff {word : UInt32} (h : offset + 4 ≤ bs.length) :
    wordAt bs offset = word ↔ (bs.drop offset).take 4 = ofWord32 word := by
  have hread := slice?_of_le h
  have hword : wordAt bs offset = UInt32.ofNat (toNat ((bs.drop offset).take 4)) := by
    rw [wordAt, u32At?, hread, Option.map_some, Option.getD_some]
  constructor
  · rintro rfl
    have hlength := length_of_slice? hread
    have hlt := toNat_lt ((bs.drop offset).take 4)
    have hself := ofNat_toNat ((bs.drop offset).take 4)
    rw [hlength] at hlt hself
    rw [ofWord32, hword, UInt32.toNat_ofNat_of_lt' hlt, hself]
  · intro hbytes
    rw [hword, hbytes, ofNat_toNat_ofWord32]

/-! ## Beginnings -/

/-- A read inside a beginning gives what it gives of the whole. -/
theorem slice?_take {size n : Nat} (h : offset + size ≤ n) :
    slice? (bs.take n) offset size = slice? bs offset size := by
  by_cases hfit : offset + size ≤ bs.length
  · rw [slice?, slice?, if_pos hfit, if_pos (by rw [List.length_take]; omega), List.drop_take,
      List.take_take, Nat.min_eq_left (by omega)]
  · rw [slice?, slice?, if_neg hfit, if_neg (by rw [List.length_take]; omega)]

/-- What leaves a byte string leaves its beginnings. -/
theorem slice?_take_eq_none {size : Nat} (h : slice? bs offset size = none) (n : Nat) :
    slice? (bs.take n) offset size = none := by
  unfold slice? at h ⊢
  split at h
  · cases h
  · next hfit => rw [if_neg (by rw [List.length_take]; omega)]

/-- A part that a beginning has room for stands there as well. -/
theorem HoldsAt.take {n : Nat} (h : HoldsAt bs offset part) (hfit : offset + part.length ≤ n) :
    HoldsAt (bs.take n) offset part := by
  rw [HoldsAt, slice?_take hfit]
  exact h

theorem u32At?_take {n : Nat} (h : offset + 4 ≤ n) :
    u32At? (bs.take n) offset = u32At? bs offset := by
  rw [u32At?, slice?_take h, u32At?]

theorem wordAt_take {n : Nat} (h : offset + 4 ≤ n) :
    wordAt (bs.take n) offset = wordAt bs offset := by
  rw [wordAt, u32At?_take h, wordAt]

/-! ## Pieces of one size -/

section Chunks

variable {size : Nat}

theorem chunks_of_le (hpos : 0 < size) (h : size ≤ bs.length) :
    chunks size bs = bs.take size :: chunks size (bs.drop size) := by
  have hcount : bs.length / size = (bs.drop size).length / size + 1 := by
    rw [List.length_drop, Nat.div_eq_sub_div hpos h]
  rw [chunks, hcount, splitEvery, chunks]

theorem chunks_of_lt (h : bs.length < size) : chunks size bs = [] := by
  rw [chunks, Nat.div_eq_of_lt h]
  rfl

/-- What holds of the first piece and the pieces behind it holds of all pieces. -/
theorem chunks_induction {motive : Bytes → Prop} (hpos : 0 < size)
    (hshort : ∀ bs : Bytes, bs.length < size → motive bs)
    (hmore : ∀ bs : Bytes, size ≤ bs.length → motive (bs.drop size) → motive bs) (bs : Bytes) :
    motive bs := by
  induction hn : bs.length using Nat.strongRecOn generalizing bs with
  | ind n ih =>
      by_cases hlt : bs.length < size
      · exact hshort bs hlt
      · have hle : size ≤ bs.length := Nat.not_lt.mp hlt
        exact hmore bs hle (ih (bs.drop size).length (by rw [List.length_drop]; omega) _ rfl)

theorem length_chunks (size : Nat) (bs : Bytes) : (chunks size bs).length = bs.length / size := by
  have hsplit (count : Nat) (bs : Bytes) : (splitEvery size count bs).length = count := by
    induction count generalizing bs with
    | zero => rfl
    | succ count ih => rw [splitEvery, List.length_cons, ih]
  exact hsplit ..

theorem length_of_mem_chunks (hpos : 0 < size) (h : part ∈ chunks size bs) :
    part.length = size := by
  induction bs using chunks_induction hpos with
  | hshort bs hlt =>
      rw [chunks_of_lt hlt] at h
      cases h
  | hmore bs hle ih =>
      rw [chunks_of_le hpos hle] at h
      rcases List.mem_cons.mp h with rfl | hrest
      · rw [List.length_take, Nat.min_eq_left hle]
      · exact ih hrest

/-- A beginning is cut into the first of the pieces. -/
theorem chunks_take (hpos : 0 < size) (n : Nat) :
    chunks size (bs.take n) = (chunks size bs).take (n / size) := by
  induction bs using chunks_induction hpos generalizing n with
  | hshort bs hlt =>
      rw [chunks_of_lt hlt, chunks_of_lt (by rw [List.length_take]; omega), List.take_nil]
  | hmore bs hle ih =>
      by_cases hn : n < size
      · rw [chunks_of_lt (by rw [List.length_take]; omega), Nat.div_eq_of_lt hn, List.take_zero]
      · have hcount : n / size = (n - size) / size + 1 := Nat.div_eq_sub_div hpos (by omega)
        rw [chunks_of_le hpos (by rw [List.length_take]; omega), List.take_take,
          Nat.min_eq_left (by omega), List.drop_take, ih, chunks_of_le hpos hle, hcount,
          List.take_succ_cons]

end Chunks

/-! ## Overwriting -/

/-- The bytes after an overwrite: the new ones in its range, the old ones elsewhere. -/
theorem getElem?_patch (bs : Bytes) (offset : Nat) (new : Bytes) (i : Nat) :
    (patch bs offset new)[i]? =
      if offset + new.length ≤ bs.length ∧ offset ≤ i ∧ i < offset + new.length then
        new[i - offset]?
      else bs[i]? := by
  unfold patch
  split
  · next hfit =>
      -- a place lies in front of the range, in it or behind it
      by_cases hbefore : i < offset
      · rw [if_neg (by omega), List.append_assoc,
          List.getElem?_append_left (by rw [List.length_take]; omega),
          List.getElem?_take_of_lt hbefore]
      · by_cases hin : i < offset + new.length
        · rw [if_pos ⟨hfit, by omega, hin⟩,
            List.getElem?_append_left (by rw [List.length_append, List.length_take]; omega),
            List.getElem?_append_right (by rw [List.length_take]; omega), List.length_take,
            Nat.min_eq_left (by omega)]
        · rw [if_neg (by omega),
            List.getElem?_append_right (by rw [List.length_append, List.length_take]; omega),
            List.getElem?_drop, List.length_append, List.length_take, Nat.min_eq_left (by omega)]
          congr 1
          omega
  · next hfit => rw [if_neg (fun h => hfit h.1)]

/-- The later of two overwrites of one range decides. -/
theorem patch_patch (hlength : a.length = b.length) :
    patch (patch bs offset a) offset b = patch bs offset b := by
  apply List.ext_getElem?
  intro i
  simp only [getElem?_patch, length_patch, hlength]
  split <;> rfl

/-- Overwriting a part with itself changes nothing. -/
theorem patch_eq_self (h : HoldsAt bs offset part) : patch bs offset part = bs := by
  obtain ⟨before, after, rfl, rfl⟩ := holdsAt_iff.mp h
  have hfit : before.length + part.length ≤ (before ++ (part ++ after)).length := by
    simp
  have hbehind : (before ++ (part ++ after)).drop (before.length + part.length) = after := by
    simp
  rw [patch, if_pos hfit, List.take_left, hbehind, List.append_assoc]

/-- Overwrites of two ranges apart from each other can be made in either order. -/
theorem patch_comm {first second : Nat}
    (hapart : first + a.length ≤ second ∨ second + b.length ≤ first) :
    patch (patch bs first a) second b = patch (patch bs second b) first a := by
  apply List.ext_getElem?
  intro i
  simp only [getElem?_patch, length_patch]
  -- a place in the second range is not in the first
  by_cases hb : second + b.length ≤ bs.length ∧ second ≤ i ∧ i < second + b.length
  · rw [if_pos hb, if_neg (by omega), if_pos hb]
  · rw [if_neg hb, if_neg hb]

/-- An overwrite inside the first part of a concatenation leaves the second. -/
theorem patch_append (hfit : offset + part.length ≤ a.length) :
    patch (a ++ b) offset part = patch a offset part ++ b := by
  unfold patch
  rw [if_pos hfit, if_pos (by rw [List.length_append]; omega),
    List.take_append_of_le_length (by omega), List.drop_append_of_le_length hfit]
  simp only [List.append_assoc]

/-- The beginning of an overwritten byte string, when the range lies in it. -/
theorem take_patch {n : Nat} (hfit : offset + part.length ≤ n) (hn : n ≤ bs.length) :
    (patch bs offset part).take n = patch (bs.take n) offset part := by
  have hlength : (bs.take n).length = n := by
    rw [List.length_take]
    omega
  have hsplit : patch bs offset part = patch (bs.take n) offset part ++ bs.drop n := by
    rw [← patch_append (by omega), List.take_append_drop]
  rw [hsplit, List.take_left' (by rw [length_patch, hlength])]

/-- A read apart from the overwritten range gives what it gave before. -/
theorem slice?_patch {start size : Nat}
    (hapart : start + size ≤ offset ∨ offset + part.length ≤ start) :
    slice? (patch bs offset part) start size = slice? bs start size := by
  apply slice?_congr (length_patch ..)
  intro i hfrom hto
  rw [getElem?_patch, if_neg (by omega)]

theorem u32At?_patch {start : Nat} (hapart : start + 4 ≤ offset ∨ offset + part.length ≤ start) :
    u32At? (patch bs offset part) start = u32At? bs start := by
  rw [u32At?, slice?_patch hapart, u32At?]

theorem wordAt_patch {start : Nat} (hapart : start + 4 ≤ offset ∨ offset + part.length ≤ start) :
    wordAt (patch bs offset part) start = wordAt bs start := by
  rw [wordAt, u32At?_patch hapart, wordAt]

/-- What was written is found in its place. -/
theorem holdsAt_patch (hfit : offset + part.length ≤ bs.length) :
    HoldsAt (patch bs offset part) offset part := by
  apply holdsAt_iff.mpr
  refine ⟨bs.take offset, bs.drop (offset + part.length), ?_, ?_⟩
  · rw [patch, if_pos hfit, List.append_assoc]
  · rw [List.length_take]
    omega

/-- An overwrite leaves the parts apart from its range. -/
theorem HoldsAt.patch {start : Nat} {new : Bytes} (h : HoldsAt bs start part)
    (hapart : start + part.length ≤ offset ∨ offset + new.length ≤ start) :
    HoldsAt (patch bs offset new) start part := by
  unfold HoldsAt
  rw [slice?_patch hapart]
  exact h

end IccProfile.Bytes
