import IccProfile.Proofs.Tag.Localized
import IccProfile.Tag.Data
import Mathlib.Data.List.Basic

/-!
# Used bytes

A decoder reports how many bytes of a block it used. `Sufficient` says that the report can be
relied on: it stays inside the block, and every beginning of the block that holds the used
bytes decodes to the same data with the same report.

The report is a maximum over the ends of all that was read, so a cut behind it keeps every
read that succeeded (`Bytes.slice?_take`), and a cut never lets a read succeed that failed
(`Bytes.slice?_take_eq_none`). One lemma for each decoder follows its walk, and
`TagData.sufficient_decode` puts them together by the type code.
-/

set_option autoImplicit false

namespace IccProfile

variable {α : Type} {block : Bytes} {used : Nat}

/-! ## Sufficient reports -/

/-- The report on a block: inside it, not in the middle of the type code, and enough of the block
to decode the same. -/
structure SufficientAt (decode : Bytes → Except Defect (α × Nat)) (block : Bytes) (a : α)
    (used : Nat) : Prop where
  head_le : min 4 block.length ≤ used
  le_length : used ≤ block.length
  decode_take : ∀ n, used ≤ n → decode (block.take n) = .ok (a, used)

/-- What a decoder reports as used is enough of every block that it accepts. -/
def Sufficient (decode : Bytes → Except Defect (α × Nat)) : Prop :=
  ∀ (block : Bytes) (a : α) (used : Nat), decode block = .ok (a, used) →
    SufficientAt decode block a used

/-- Only cuts inside the block need a proof. -/
theorem SufficientAt.of_lt {decode : Bytes → Except Defect (α × Nat)} {a : α}
    (h : decode block = .ok (a, used)) (hhead : min 4 block.length ≤ used)
    (hlength : used ≤ block.length)
    (htake : ∀ n, used ≤ n → n < block.length → decode (block.take n) = .ok (a, used)) :
    SufficientAt decode block a used where
  head_le := hhead
  le_length := hlength
  decode_take n hused := by
    by_cases hcut : n < block.length
    · exact htake n hused hcut
    · rw [List.take_of_length_le (Nat.not_lt.mp hcut)]
      exact h

/-- A decoder that only renames the data of another reports what that one does. -/
theorem Sufficient.map {β : Type} {decode : Bytes → Except Defect (α × Nat)}
    (h : Sufficient decode) (f : α → β) :
    Sufficient fun block => (decode block).map fun r => (f r.1, r.2) := by
  intro block b used hblock
  cases hdecode : decode block with
  | error defect =>
      simp only [hdecode] at hblock
      cases hblock
  | ok r =>
      simp only [hdecode] at hblock
      cases hblock
      obtain ⟨hhead, hlength, htake⟩ := h block r.1 r.2 hdecode
      refine ⟨hhead, hlength, ?_⟩
      intro n hused
      simp only [htake n hused]
      rfl

/-- A word that was read lies in the block. -/
theorem Bytes.le_length_of_u32At? {bs : Bytes} {offset : Nat} {word : UInt32}
    (h : u32At? bs offset = some word) : offset + 4 ≤ bs.length := by
  obtain ⟨stored, hstored, -⟩ := Option.map_eq_some_iff.mp h
  exact (slice?_eq_some_iff.mp hstored).1

/-! ## Text -/

/-- A text has at least one byte for each of its characters. -/
theorem Text.length_takeWhile_le (bs : Bytes) :
    (bs.takeWhile (· ≠ 0)).length ≤ (ofBytes bs).utf8ByteSize := by
  rw [utf8ByteSize_ofBytes]
  exact Nat.le_add_right ..

/-- A beginning with all characters of a text reads as the text. -/
theorem Text.ofBytes_take {bs : Bytes} {n : Nat} (h : (ofBytes bs).utf8ByteSize ≤ n) :
    ofBytes (bs.take n) = ofBytes bs := by
  have hlength := Nat.le_trans (length_takeWhile_le bs) h
  rw [ofBytes, ← List.take_takeWhile, List.take_of_length_le hlength, ofBytes]

namespace PlainText

theorem sufficient_decode : Sufficient decode := by
  intro block text used h
  by_cases hshort : block.length < 8
  · rw [decode, if_pos hshort] at h
    cases h
  · have hread := h
    simp only [decode, if_neg hshort, List.length_drop, Except.ok.injEq, Prod.mk.injEq] at hread
    obtain ⟨rfl, rfl⟩ := hread
    refine .of_lt h (by omega) (by omega) ?_
    intro n hused hcut
    -- the zero behind the text is used, so the cut is behind it
    have hbody : Text.ofBytes ((block.take n).drop 8) = Text.ofBytes (block.drop 8) := by
      rw [List.drop_take]
      exact Text.ofBytes_take (by omega)
    have hlength : ((block.take n).drop 8).length = n - 8 := by
      rw [List.length_drop, List.length_take, Nat.min_eq_left (Nat.le_of_lt hcut)]
    rw [decode, if_neg (by rw [List.length_take]; omega)]
    simp only [hbody, hlength, Except.ok.injEq, Prod.mk.injEq, true_and]
    omega

end PlainText

namespace DescriptionText

theorem sufficient_decode : Sufficient decode := by
  intro block text used h
  cases hcount : Bytes.u32At? block 8 with
  | none =>
      rw [decode, hcount] at h
      cases h
  | some count =>
      cases hascii : Bytes.slice? block 12 count.toNat with
      | none =>
          simp only [decode, hcount, hascii] at h
          cases h
      | some ascii =>
          have hread := h
          simp only [decode, hcount, hascii, trailerSize, Except.ok.injEq, Prod.mk.injEq] at hread
          obtain ⟨rfl, rfl⟩ := hread
          have hfit := (Bytes.slice?_eq_some_iff.mp hascii).1
          refine .of_lt h (by omega) (Nat.min_le_right ..) ?_
          intro n hused hcut
          -- a cut inside the block is behind the trailer
          have hascii' : Bytes.slice? (block.take n) 12 count.toNat = some ascii := by
            rw [Bytes.slice?_take (by omega), hascii]
          rw [decode, Bytes.u32At?_take (by omega), hcount]
          simp only [hascii', trailerSize, List.length_take, Except.ok.injEq, Prod.mk.injEq,
            true_and]
          omega

end DescriptionText

/-! ## Localized text -/

namespace LocalizedText

variable {size offset n : Nat}

/-- A record and its string end inside the block. -/
theorem recordEnd_le_length {record : Bytes}
    (h : Bytes.slice? block offset recordSize = some record) :
    recordEnd block offset record ≤ block.length := by
  have hrecord := (Bytes.slice?_eq_some_iff.mp h).1
  unfold recordEnd
  split
  · exact hrecord
  · next stored hstored => exact Nat.max_le.mpr ⟨hrecord, (Bytes.slice?_eq_some_iff.mp hstored).1⟩

theorem le_recordEnd (block : Bytes) (offset : Nat) (record : Bytes) :
    offset + recordSize ≤ recordEnd block offset record := by
  unfold recordEnd
  split
  · exact Nat.le_refl _
  · exact Nat.le_max_left ..

/-- A cut behind a record and its string changes neither whether the string can be read nor what
it is. -/
theorem stringBytes?_take {record : Bytes} (h : recordEnd block offset record ≤ n) :
    stringBytes? (block.take n) record = stringBytes? block record := by
  unfold recordEnd at h
  cases hstored : stringBytes? block record with
  | none => exact Bytes.slice?_take_eq_none hstored n
  | some stored =>
      rw [hstored] at h
      rw [← hstored]
      exact Bytes.slice?_take (Nat.max_le.mp h).2

namespace Walk

variable {w : Walk} {left : Nat}

/-- The loop uses no fewer bytes than it used before, and none behind the block. -/
theorem used_run (h : w.used ≤ block.length) :
    w.used ≤ (w.run block size left).1.used ∧
      (w.run block size left).1.used ≤ block.length := by
  induction left generalizing w with
  | zero => exact ⟨Nat.le_refl _, h⟩
  | succ left ih =>
      cases hrecord : Bytes.slice? block (place size w.index) recordSize with
      | none =>
          rw [run_of_none hrecord]
          exact ⟨Nat.le_refl _, h⟩
      | some record =>
          have hend : (w.after block size record).used ≤ block.length :=
            Nat.max_le.mpr ⟨h, recordEnd_le_length hrecord⟩
          rw [run_of_some hrecord]
          exact ⟨Nat.le_trans (Nat.le_max_left ..) (ih hend).1, (ih hend).2⟩

/-- A cut behind what an iteration used does not change it. -/
theorem after_take {record : Bytes} (h : (w.after block size record).used ≤ n) :
    w.after (block.take n) size record = w.after block size record := by
  have hstring := stringBytes?_take (Nat.max_le.mp h).2
  simp only [after, entryOf?, recordEnd, hstring]

/-- A cut behind what the loop used does not change it. -/
theorem run_take (h : w.used ≤ block.length) (hused : (w.run block size left).1.used ≤ n) :
    w.run (block.take n) size left = w.run block size left := by
  induction left generalizing w with
  | zero => rfl
  | succ left ih =>
      cases hrecord : Bytes.slice? block (place size w.index) recordSize with
      -- the loop is left here, with and without the cut
      | none => rw [run_of_none hrecord, run_of_none (Bytes.slice?_take_eq_none hrecord n)]
      | some record =>
          rw [run_of_some hrecord] at hused ⊢
          have hend : (w.after block size record).used ≤ block.length :=
            Nat.max_le.mpr ⟨h, recordEnd_le_length hrecord⟩
          have hafter : (w.after block size record).used ≤ n :=
            Nat.le_trans (used_run hend).1 hused
          have hplace : place size w.index + recordSize ≤ n :=
            Nat.le_trans (le_recordEnd ..) (Nat.max_le.mp hafter).2
          have hslice := (Bytes.slice?_take hplace).trans hrecord
          rw [run_of_some hslice, after_take hafter, ih hend hused]

end Walk

theorem sufficient_decode : Sufficient decode := by
  intro block t used h
  cases hcount : Bytes.u32At? block 8 with
  | none =>
      simp only [decode, hcount] at h
      cases h
  | some count =>
    cases hsize : Bytes.u32At? block 12 with
    | none =>
        simp only [decode, hcount, hsize] at h
        cases h
    | some size =>
      by_cases hsmall : size.toNat < recordSize
      · simp only [decode, hcount, hsize, if_pos hsmall] at h
        cases h
      · simp only [decode, hcount, hsize, if_neg hsmall, Except.ok.injEq, Prod.mk.injEq] at h
        obtain ⟨rfl, rfl⟩ := h
        have hhead : Walk.start.used ≤ block.length := Bytes.le_length_of_u32At? hsize
        have hends : 16 ≤ (Walk.start.run block size.toNat count.toNat).1.used ∧
            (Walk.start.run block size.toNat count.toNat).1.used ≤ block.length :=
          Walk.used_run hhead
        refine ⟨by omega, hends.2, ?_⟩
        intro n hused
        rw [decode, Bytes.u32At?_take (by omega), Bytes.u32At?_take (by omega), hcount, hsize]
        simp only [if_neg hsmall, Walk.run_take hhead hused]

end LocalizedText

/-! ## Dictionaries -/

/-- A running maximum is bounded when its start and all its members are. -/
theorem foldl_max_le_iff {f : α → Nat} {l : List α} {start n : Nat} :
    l.foldl (fun m a => max m (f a)) start ≤ n ↔ start ≤ n ∧ ∀ a ∈ l, f a ≤ n := by
  induction l generalizing start with
  | nil => simp
  | cons a rest ih => rw [List.foldl_cons, ih, Nat.max_le, List.forall_mem_cons, and_assoc]

theorem le_foldl_max (f : α → Nat) (l : List α) (start : Nat) :
    start ≤ l.foldl (fun m a => max m (f a)) start :=
  (foldl_max_le_iff.mp (Nat.le_refl _)).1

/-- A run over a list is repeated by a function that gives the same results. -/
theorem mapM_of_mapM {β ε : Type} {f g : α → Except ε β} {xs : List α} {ys : List β}
    (h : xs.mapM f = .ok ys) (hsame : ∀ x ∈ xs, ∀ y ∈ ys, f x = .ok y → g x = .ok y) :
    xs.mapM g = .ok ys := by
  induction xs generalizing ys with
  | nil => exact h
  | cons x xs ih =>
      rw [List.mapM_cons] at h ⊢
      cases hx : f x with
      | error e =>
          rw [hx] at h
          cases h
      | ok y =>
          cases hxs : xs.mapM f with
          | error e =>
              rw [hx, hxs] at h
              cases h
          | ok rest =>
              rw [hx, hxs] at h
              cases h
              have hrest := ih hxs fun x hx y hy =>
                hsame x (List.mem_cons_of_mem _ hx) y (List.mem_cons_of_mem _ hy)
              rw [hsame x List.mem_cons_self y List.mem_cons_self hx, hrest]
              rfl

namespace Dictionary

variable {n : Nat}

theorem string?_take {offset size : Nat} (h : offset + size ≤ n) :
    string? (block.take n) offset size = string? block offset size := by
  rw [string?, Bytes.slice?_take h, string?]

/-- A cut behind a record and its strings keeps the record. -/
theorem decodeRecord_take {size index : Nat} {r : (String × String) × Nat}
    (h : decodeRecord block size index = .ok r) (hrecord : 16 + index * size + 16 ≤ n)
    (hend : r.2 ≤ n) : decodeRecord (block.take n) size index = .ok r := by
  have hwords (i : Nat) (hi : i + 4 ≤ 16) :
      Bytes.wordAt (block.take n) (16 + index * size + i) =
        Bytes.wordAt block (16 + index * size + i) :=
    Bytes.wordAt_take (by omega)
  have hfirst := hwords 0 (by decide)
  rw [Nat.add_zero] at hfirst
  have hread := h
  simp only [decodeRecord] at hread
  split at hread
  · cases hread
  · cases hread
  · next name value hname hvalue =>
      obtain rfl := Except.ok.inj hread
      obtain ⟨hnameEnd, hvalueEnd⟩ := Nat.max_le.mp hend
      have hnameCut := Nat.le_trans (Bytes.le_ceil4 _) hnameEnd
      have hvalueCut := Nat.le_trans (Bytes.le_ceil4 _) hvalueEnd
      simp only [decodeRecord, hfirst, hwords 4 (by decide), hwords 8 (by decide),
        hwords 12 (by decide), string?_take hnameCut, string?_take hvalueCut, hname, hvalue]

theorem sufficient_decode : Sufficient decode := by
  intro block d used h
  cases hcount : Bytes.u32At? block 8 with
  | none =>
      simp only [decode, hcount] at h
      cases h
  | some count =>
    cases hsize : Bytes.u32At? block 12 with
    | none =>
        simp only [decode, hcount, hsize] at h
        cases h
    | some size =>
      have hread := h
      simp only [decode, hcount, hsize] at hread
      split_ifs at hread with hsizes hfit
      cases hrecords : (List.range count.toNat).mapM (decodeRecord block size.toNat) with
      | error defect =>
          rw [hrecords] at hread
          cases hread
      | ok records =>
          rw [hrecords] at hread
          simp only [Except.ok.injEq, Prod.mk.injEq] at hread
          obtain ⟨rfl, rfl⟩ := hread
          have hstart := le_foldl_max (fun r : (String × String) × Nat => r.2) records
            (count.toNat * size.toNat + 16)
          refine .of_lt h (by omega) (Nat.min_le_right ..) ?_
          intro n hused hcut
          have hmax : records.foldl (fun used r => max used r.2)
              (count.toNat * size.toNat + 16) ≤ n := by omega
          obtain ⟨htable, hends⟩ := foldl_max_le_iff.mp hmax
          -- the cut is behind the table and behind every string
          have hrecords' : (List.range count.toNat).mapM
              (decodeRecord (block.take n) size.toNat) = .ok records := by
            apply mapM_of_mapM hrecords
            intro index hindex r hr hrecord
            refine decodeRecord_take hrecord ?_ (hends r hr)
            have hlt : (index + 1) * size.toNat ≤ count.toNat * size.toNat :=
              Nat.mul_le_mul_right _ (List.mem_range.mp hindex)
            rw [Nat.add_mul, Nat.one_mul] at hlt
            omega
          rw [decode, Bytes.u32At?_take (by omega), Bytes.u32At?_take (by omega), hcount, hsize]
          have hlength : (block.take n).length = n := by
            rw [List.length_take, Nat.min_eq_left (Nat.le_of_lt hcut)]
          have hfit' : ¬ count.toNat * size.toNat + 16 > n := by omega
          simp only [if_neg (not_not_intro hsizes), hlength, if_neg hfit', hrecords',
            Except.ok.injEq, Prod.mk.injEq, true_and]
          omega

end Dictionary

/-! ## Numbers -/

theorem length_wordsOfBytes (bs : Bytes) : (wordsOfBytes bs).length = bs.length / 4 := by
  rw [wordsOfBytes, List.length_map, Bytes.length_chunks]

theorem wordsOfBytes_take (bs : Bytes) (n : Nat) :
    wordsOfBytes (bs.take n) = (wordsOfBytes bs).take (n / 4) := by
  rw [wordsOfBytes, Bytes.chunks_take (by decide), List.map_take, wordsOfBytes]

namespace Xyz

theorem length_ofWords (ws : List UInt32) : (ofWords ws).length = ws.length / 3 := by
  fun_induction ofWords ws with
  | case1 x y z rest ih =>
      simp only [List.length_cons, ih]
      omega
  | case2 ws hshort =>
      match ws, hshort with
      | [], _ => rfl
      | [_], _ => simp
      | [_, _], _ => simp
      | x :: y :: z :: rest, hshort => exact absurd rfl (hshort x y z rest)

theorem ofWords_take (ws : List UInt32) (n : Nat) :
    ofWords (ws.take n) = (ofWords ws).take (n / 3) := by
  fun_induction ofWords ws generalizing n with
  | case1 x y z rest ih =>
      match n with
      | 0 => rfl
      | 1 => rfl
      | 2 => rfl
      | n + 3 =>
          have hcount : (n + 3) / 3 = n / 3 + 1 := by omega
          simp only [List.take_succ_cons, ofWords, hcount, ih]
  | case2 ws hshort =>
      have hlength : (ofWords (ws.take n)).length = 0 := by
        rw [length_ofWords, List.length_take]
        match ws, hshort with
        | [], _ => simp
        | [_], _ => simp only [List.length_singleton]; omega
        | [_, _], _ => simp only [List.length_cons, List.length_nil]; omega
        | x :: y :: z :: rest, hshort => exact absurd rfl (hshort x y z rest)
      rw [List.eq_nil_of_length_eq_zero hlength, List.take_nil]

theorem sufficient_decodeAll : Sufficient decodeAll := by
  intro block values used h
  have hcount := length_ofWords (wordsOfBytes (block.drop 8))
  rw [length_wordsOfBytes, List.length_drop] at hcount
  cases hvalues : ofWords (wordsOfBytes (block.drop 8)) with
  | nil =>
      simp only [decodeAll, hvalues] at h
      cases h
  | cons first rest =>
      simp only [decodeAll, hvalues, Except.ok.injEq, Prod.mk.injEq] at h
      obtain ⟨rfl, rfl⟩ := h
      rw [hvalues, List.length_cons] at hcount
      rw [List.length_cons]
      refine ⟨by omega, by omega, ?_⟩
      intro n hused
      -- the cut is behind the last whole value
      have hcut : ofWords (wordsOfBytes ((block.take n).drop 8)) = first :: rest := by
        rw [List.drop_take, wordsOfBytes_take, ofWords_take, hvalues,
          List.take_of_length_le (by rw [List.length_cons]; omega)]
      simp only [decodeAll, hcut, List.length_cons]

end Xyz

namespace Fixed

theorem sufficient_decodeAll : Sufficient decodeAll := by
  intro block values used h
  by_cases hshort : block.length < 8
  · rw [decodeAll, if_pos hshort] at h
    cases h
  · simp only [decodeAll, if_neg hshort, List.length_map, length_wordsOfBytes, List.length_drop,
      Except.ok.injEq, Prod.mk.injEq] at h
    obtain ⟨rfl, rfl⟩ := h
    refine ⟨by omega, by omega, ?_⟩
    intro n hused
    have hcut : wordsOfBytes ((block.take n).drop 8) = wordsOfBytes (block.drop 8) := by
      rw [List.drop_take, wordsOfBytes_take,
        List.take_of_length_le (by rw [length_wordsOfBytes, List.length_drop]; omega)]
    have hlong : ¬ (block.take n).length < 8 := by
      rw [List.length_take]
      omega
    simp only [decodeAll, if_neg hlong, hcut, List.length_map, length_wordsOfBytes,
      List.length_drop]

end Fixed

/-! ## Sequences of profiles -/

namespace ProfileSequence

/-- A run over a table with at least one entry left succeeds exactly when its first entry is in
the block with a description that can be read, and the run over the rest succeeds. -/
theorem decodeFrom_succ_eq_ok_iff {count index : Nat} {entries : List SequenceEntry} {stop : Nat} :
    decodeFrom block (count + 1) index used = .ok (entries, stop) ↔
      ∃ offset size element description rest,
        Bytes.u32At? block (12 + index * 8) = some offset ∧
        Bytes.u32At? block (16 + index * 8) = some size ∧
        element? block offset.toNat size.toNat = some element ∧
        decodeDescription (element.drop 16) = .ok description ∧
        decodeFrom block count (index + 1)
          (max (max used (20 + index * 8)) (offset.toNat + size.toNat)) = .ok (rest, stop) ∧
        entries = ⟨(ProfileId.ofBytes? (element.take 16)).getD .zero, description⟩ :: rest := by
  constructor
  · intro h
    rw [decodeFrom] at h
    split at h
    · next offset size hoffset hsize =>
        split at h
        · cases h
        · next element helement =>
            cases hdescription : decodeDescription (element.drop 16) with
            | error defect =>
                rw [hdescription] at h
                cases h
            | ok description =>
                rw [hdescription] at h
                cases hrest : decodeFrom block count (index + 1)
                    (max (max used (20 + index * 8)) (offset.toNat + size.toNat)) with
                | error defect =>
                    simp only [bind, Except.bind, hrest] at h
                    cases h
                | ok r =>
                    simp only [bind, Except.bind, hrest] at h
                    cases h
                    exact ⟨offset, size, element, description, r.1, hoffset, hsize, helement,
                      hdescription, hrest, rfl⟩
    · cases h
  · rintro ⟨offset, size, element, description, rest, hoffset, hsize, helement, hdescription,
      hrest, rfl⟩
    rw [decodeFrom, hoffset, hsize]
    simp only [helement, hdescription, bind, Except.bind, hrest]
    rfl

/-- What a run uses grows, stays inside the block and is enough to repeat the run. -/
theorem decodeFrom_take {count index : Nat} {entries : List SequenceEntry} {stop : Nat}
    (h : decodeFrom block count index used = .ok (entries, stop)) :
    used ≤ stop ∧ (used ≤ block.length → stop ≤ block.length) ∧
      ∀ n, stop ≤ n → decodeFrom (block.take n) count index used = .ok (entries, stop) := by
  induction count generalizing index used entries with
  | zero =>
      cases h
      exact ⟨Nat.le_refl _, id, fun _ _ => rfl⟩
  | succ count ih =>
      obtain ⟨offset, size, element, description, rest, hoffset, hsize, helement, hdescription,
        hrest, rfl⟩ := decodeFrom_succ_eq_ok_iff.mp h
      obtain ⟨hle, hlength, htake⟩ := ih hrest
      obtain ⟨hstored, hlong⟩ := Option.filter_eq_some_iff.mp helement
      have htable := Bytes.le_length_of_u32At? hsize
      have hfit := (Bytes.slice?_eq_some_iff.mp hstored).1
      refine ⟨by omega, fun hused => hlength (by omega), ?_⟩
      intro n hn
      apply decodeFrom_succ_eq_ok_iff.mpr
      refine ⟨offset, size, element, description, rest, ?_, ?_, ?_, hdescription, htake n hn, rfl⟩
      · rw [Bytes.u32At?_take (by omega), hoffset]
      · rw [Bytes.u32At?_take (by omega), hsize]
      · rw [element?, Bytes.slice?_take (by omega)]
        exact helement

theorem sufficient_decode : Sufficient decode := by
  intro block ps used h
  cases hcount : Bytes.u32At? block 8 with
  | none =>
      rw [decode, hcount] at h
      cases h
  | some count =>
      cases hentries : decodeFrom block count.toNat 0 12 with
      | error defect =>
          simp only [decode, hcount, hentries] at h
          cases h
      | ok r =>
          simp only [decode, hcount, hentries] at h
          cases h
          obtain ⟨hle, hlength, htake⟩ := decodeFrom_take hentries
          have hhead := Bytes.le_length_of_u32At? hcount
          refine ⟨by omega, hlength hhead, ?_⟩
          intro n hused
          rw [decode, Bytes.u32At?_take (by omega), hcount]
          simp only [htake n hused]
          rfl

end ProfileSequence

/-! ## All types -/

namespace TagData

theorem sufficient_decodeSignature : Sufficient decodeSignature := by
  intro block code used h
  cases hcode : Bytes.u32At? block 8 with
  | none =>
      rw [decodeSignature, hcode] at h
      cases h
  | some word =>
      rw [decodeSignature, hcode] at h
      cases h
      have hhead := Bytes.le_length_of_u32At? hcode
      refine ⟨by omega, hhead, ?_⟩
      intro n hused
      rw [decodeSignature, Bytes.u32At?_take hused, hcode]

/-- A type without a decoder uses the whole block. -/
theorem sufficient_other (type : Signature) :
    Sufficient fun block => .ok (TagData.other type, block.length) := by
  intro block d used h
  cases h
  refine ⟨Nat.min_le_right .., Nat.le_refl _, ?_⟩
  intro n hused
  rw [List.take_of_length_le hused]

theorem sufficient_decodeType (type : Signature) : Sufficient (decodeType type) := by
  unfold decodeType
  split_ifs
  · exact PlainText.sufficient_decode.map TagData.text
  · exact DescriptionText.sufficient_decode.map TagData.description
  · exact LocalizedText.sufficient_decode.map TagData.localized
  · exact Dictionary.sufficient_decode.map TagData.dictionary
  · exact Xyz.sufficient_decodeAll.map TagData.xyz
  · exact Fixed.sufficient_decodeAll.map TagData.fixed
  · exact sufficient_decodeSignature.map TagData.signature
  · exact ProfileSequence.sufficient_decode.map TagData.sequence
  · exact sufficient_other type

theorem sufficient_decode : Sufficient decode := by
  intro block d used h
  cases htype : Bytes.u32At? block 0 with
  | none =>
      rw [decode, htype] at h
      cases h
  | some type =>
      rw [decode, htype] at h
      obtain ⟨hhead, hlength, htake⟩ := sufficient_decodeType type block d used h
      have hcode := Bytes.le_length_of_u32At? htype
      refine ⟨hhead, hlength, ?_⟩
      intro n hused
      rw [decode, Bytes.u32At?_take (by omega), htype]
      exact htake n hused

/-- The used bytes of a block are enough: they lie in it, and alone they decode to the same data
with all of them used. -/
theorem decode_take_used (block : Bytes) (d : TagData) (used : Nat)
    (h : decode block = .ok (d, used)) :
    used ≤ block.length ∧ decode (block.take used) = .ok (d, used) := by
  obtain ⟨-, hlength, htake⟩ := sufficient_decode block d used h
  exact ⟨hlength, htake used (Nat.le_refl _)⟩

/-- A table of three records: one with its string, one whose string leaves the block, and one
that is cut off itself. -/
def spoiledTable : Bytes :=
  blockHead Signature.typeLocalized ++ Bytes.ofSize 3 ++ Bytes.ofSize LocalizedText.recordSize
    ++ (Text.code2 "en" ++ Text.code2 "US" ++ Bytes.ofSize 2 ++ Bytes.ofSize 40)
    ++ (Text.code2 "de" ++ Text.code2 "" ++ Bytes.ofSize 64 ++ Bytes.ofSize 40)
    ++ Text.toUtf16 "A" ++ [0, 0, 0]

theorem decode_take_used_spoiledTable :
    spoiledTable.length = 45 ∧
      decode spoiledTable = .ok (.localized ⟨[⟨"en", "US", "A"⟩]⟩, 42) ∧
      decode (spoiledTable.take 42) = .ok (.localized ⟨[⟨"en", "US", "A"⟩]⟩, 42) := by
  have hdecode : decode spoiledTable = .ok (.localized ⟨[⟨"en", "US", "A"⟩]⟩, 42) := by
    decide +kernel
  exact ⟨by decide +kernel, hdecode, (decode_take_used _ _ _ hdecode).2⟩

end TagData

end IccProfile
