import IccProfile.Proofs.Text.Stored

/-!
# Which units are text

The first half of a surrogate pair stands directly before a second half, and a second half directly
behind a first one. Units are read as text exactly when no surrogate stands otherwise
(`charsOfUnits?_eq_none_iff`), and the text has just these units
(`flatMap_unitsOfChar_of_charsOfUnits?`): reading neither skips nor replaces any. For a stored
string `ofUtf16?_eq_some_iff` says both of its units before the first zero.
-/

set_option autoImplicit false

namespace IccProfile.Text

variable {units : List UInt16} {u v : UInt16} {i : Nat}

/-- The unit at a place is the first half of a pair. -/
def HighAt (units : List UInt16) (i : Nat) : Prop := (units[i]?.any isHighSurrogate) = true

/-- The unit at a place is the second half of a pair. -/
def LowAt (units : List UInt16) (i : Nat) : Prop := (units[i]?.any isLowSurrogate) = true

/-- The unit at a place is half a pair without the other half beside it. -/
def UnpairedAt (units : List UInt16) (i : Nat) : Prop :=
  HighAt units i ∧ ¬ LowAt units (i + 1) ∨ LowAt units i ∧ (i = 0 ∨ ¬ HighAt units (i - 1))

/-- The units of a stored string before the first zero. -/
def textUnits (bs : Bytes) : List UInt16 := (unitsOfBytes bs).takeWhile (· ≠ 0)

/-! ## Places in a longer list -/

@[simp] theorem not_highAt_nil : ¬ HighAt [] i := by simp [HighAt]

@[simp] theorem not_lowAt_nil : ¬ LowAt [] i := by simp [LowAt]

@[simp] theorem highAt_zero : HighAt (u :: units) 0 ↔ isHighSurrogate u = true := by simp [HighAt]

@[simp] theorem lowAt_zero : LowAt (u :: units) 0 ↔ isLowSurrogate u = true := by simp [LowAt]

@[simp] theorem highAt_succ : HighAt (u :: units) (i + 1) ↔ HighAt units i := by simp [HighAt]

@[simp] theorem lowAt_succ : LowAt (u :: units) (i + 1) ↔ LowAt units i := by simp [LowAt]

theorem not_unpairedAt_nil : ¬ UnpairedAt [] i := by simp [UnpairedAt]

theorem unpairedAt_zero :
    UnpairedAt (u :: units) 0 ↔
      isHighSurrogate u = true ∧ ¬ LowAt units 0 ∨ isLowSurrogate u = true := by
  simp [UnpairedAt]

/-- A unit that is no first half does not matter for those behind it. -/
theorem unpairedAt_succ (h : isHighSurrogate u = false) :
    UnpairedAt (u :: units) (i + 1) ↔ UnpairedAt units i := by
  cases i with
  | zero => simp [UnpairedAt, h]
  | succ i => simp [UnpairedAt]

/-- Any unit does not matter for those that are not next to it. -/
theorem unpairedAt_add_two : UnpairedAt (u :: units) (i + 2) ↔ UnpairedAt units (i + 1) := by
  simp [UnpairedAt]

theorem isHighSurrogate_of_low (h : isLowSurrogate u = true) : isHighSurrogate u = false := by
  by_contra hhigh
  have hnot := isLowSurrogate_of_high (Bool.not_eq_false _ ▸ hhigh)
  rw [h] at hnot
  cases hnot

/-! ## One character in front -/

theorem exists_unpairedAt_basic (hlow : isLowSurrogate u = false)
    (hhigh : isHighSurrogate u = false) :
    (∃ i, UnpairedAt (u :: units) i) ↔ ∃ i, UnpairedAt units i := by
  have hzero : ¬ UnpairedAt (u :: units) 0 := by simp [unpairedAt_zero, hlow, hhigh]
  rw [← Nat.or_exists_add_one]
  simp only [hzero, unpairedAt_succ hhigh, false_or]

theorem exists_unpairedAt_pair (hu : isHighSurrogate u = true) (hv : isLowSurrogate v = true) :
    (∃ i, UnpairedAt (u :: v :: units) i) ↔ ∃ i, UnpairedAt units i := by
  have hhigh := isHighSurrogate_of_low hv
  have hfirst : ¬ UnpairedAt (u :: v :: units) 0 := by
    simp [unpairedAt_zero, hv, isLowSurrogate_of_high hu]
  have hsecond : ¬ UnpairedAt (u :: v :: units) (0 + 1) := by simp [UnpairedAt, hu, hhigh]
  rw [← Nat.or_exists_add_one, ← Nat.or_exists_add_one]
  simp only [hfirst, hsecond, unpairedAt_add_two, unpairedAt_succ hhigh, false_or]

/-- Units are not read as text exactly when one of them is half a pair without the other half. -/
theorem charsOfUnits?_eq_none_iff : charsOfUnits? units = none ↔ ∃ i, UnpairedAt units i := by
  fun_induction charsOfUnits? units with
  | case1 => simp [not_unpairedAt_nil]
  -- a second half in front, a first half alone, a first half with something else behind it
  | case2 u rest hlow => exact iff_of_true rfl ⟨0, unpairedAt_zero.mpr (.inr hlow)⟩
  | case3 u hlow hhigh =>
      exact iff_of_true rfl ⟨0, unpairedAt_zero.mpr (.inl ⟨hhigh, not_lowAt_nil⟩)⟩
  | case5 u hlow hhigh v rest hother =>
      have hlone : ¬ LowAt (v :: rest) 0 := fun h => hother (lowAt_zero.mp h)
      exact iff_of_true rfl ⟨0, unpairedAt_zero.mpr (.inl ⟨hhigh, hlone⟩)⟩
  -- a pair and a single unit
  | case4 u hlow hhigh v rest hpair ih =>
      rw [Option.map_eq_none_iff, exists_unpairedAt_pair hhigh hpair]
      exact ih
  | case6 u rest hlow hhigh ih =>
      rw [Option.map_eq_none_iff,
        exists_unpairedAt_basic (Bool.eq_false_iff.mpr hlow) (Bool.eq_false_iff.mpr hhigh)]
      exact ih

/-! ## The units of what was read -/

/-- A number that is no surrogate's is that of its character. -/
theorem toNat_ofNat_of_ranges {n : Nat} (h : n < 0xD800 ∨ 0xE000 ≤ n ∧ n < 0x110000) :
    (Char.ofNat n).toNat = n := by
  have hvalid : n.isValidChar := by
    rcases h with h | h
    · exact .inl h
    · exact .inr ⟨by omega, h.2⟩
  rw [Char.ofNat, dif_pos hvalid]
  rfl

theorem unitsOfChar_basic (hlow : isLowSurrogate u = false) (hhigh : isHighSurrogate u = false) :
    unitsOfChar (Char.ofNat u.toNat) = [u] := by
  have hu := u.toNat_lt
  simp only [isLowSurrogate, isHighSurrogate, Bool.and_eq_false_iff, decide_eq_false_iff_not]
    at hlow hhigh
  have hnat : (Char.ofNat u.toNat).toNat = u.toNat := toNat_ofNat_of_ranges (by omega)
  rw [unitsOfChar, hnat, if_pos (by omega), UInt16.ofNat_toNat]

/-- A pair is taken apart into its halves again. -/
theorem unitsOfChar_charOfPair (hu : isHighSurrogate u = true) (hv : isLowSurrogate v = true) :
    unitsOfChar (charOfPair u v) = [u, v] := by
  simp only [isLowSurrogate, isHighSurrogate, Bool.and_eq_true, decide_eq_true_eq] at hu hv
  obtain ⟨a, ha⟩ : ∃ a, u.toNat = 0xD800 + a := ⟨u.toNat - 0xD800, by omega⟩
  obtain ⟨b, hb⟩ : ∃ b, v.toNat = 0xDC00 + b := ⟨v.toNat - 0xDC00, by omega⟩
  have hnat : (charOfPair u v).toNat = 0x10000 + a * 0x400 + b := by
    rw [charOfPair, toNat_ofNat_of_ranges (by omega), ha, hb]
    omega
  have hfirst : UInt16.ofNat (0xD800 + ((charOfPair u v).toNat - 0x10000) / 0x400) = u := by
    rw [hnat, show (0x10000 + a * 0x400 + b - 0x10000) / 0x400 = a by omega, ← ha,
      UInt16.ofNat_toNat]
  have hsecond : UInt16.ofNat (0xDC00 + ((charOfPair u v).toNat - 0x10000) % 0x400) = v := by
    rw [hnat, show (0x10000 + a * 0x400 + b - 0x10000) % 0x400 = b by omega, ← hb,
      UInt16.ofNat_toNat]
  rw [unitsOfChar, if_neg (by omega), hfirst, hsecond]

/-- The text that units are read as has just these units. -/
theorem flatMap_unitsOfChar_of_charsOfUnits? {cs : List Char} (h : charsOfUnits? units = some cs) :
    cs.flatMap unitsOfChar = units := by
  fun_induction charsOfUnits? units generalizing cs with
  | case1 =>
      obtain rfl := Option.some.inj h
      rfl
  | case2 | case3 | case5 => cases h
  | case4 u hlow hhigh v rest hpair ih =>
      obtain ⟨cs, hcs, rfl⟩ := Option.map_eq_some_iff.mp h
      rw [List.flatMap_cons, ih hcs, unitsOfChar_charOfPair hhigh hpair]
      rfl
  | case6 u rest hlow hhigh ih =>
      obtain ⟨cs, hcs, rfl⟩ := Option.map_eq_some_iff.mp h
      rw [List.flatMap_cons, ih hcs,
        unitsOfChar_basic (Bool.eq_false_iff.mpr hlow) (Bool.eq_false_iff.mpr hhigh)]
      rfl

/-! ## Stored strings -/

/-- A stored string is read as a text exactly when its units are paired and are those of the
text. -/
theorem ofUtf16?_eq_some_iff {bs : Bytes} {text : String} :
    ofUtf16? bs = some text ↔
      (∀ i, ¬ UnpairedAt (textUnits bs) i) ∧ text.toList.flatMap unitsOfChar = textUnits bs := by
  change (charsOfUnits? (textUnits bs)).map String.ofList = some text ↔ _
  constructor
  · intro h
    obtain ⟨cs, hcs, rfl⟩ := Option.map_eq_some_iff.mp h
    refine ⟨fun i hi => ?_, ?_⟩
    · rw [charsOfUnits?_eq_none_iff.mpr ⟨i, hi⟩] at hcs
      cases hcs
    · rw [String.toList_ofList]
      exact flatMap_unitsOfChar_of_charsOfUnits? hcs
  · rintro ⟨-, hunits⟩
    rw [← hunits, charsOfUnits?_flatMap, Option.map_some, String.ofList_toList]

/-- Paired units are those of a text. -/
theorem exists_ofUtf16? {bs : Bytes} (h : ∀ i, ¬ UnpairedAt (textUnits bs) i) :
    ∃ text, ofUtf16? bs = some text := by
  cases htext : ofUtf16? bs with
  | some text => exact ⟨text, rfl⟩
  | none =>
      have hnone : charsOfUnits? (textUnits bs) = none := Option.map_eq_none_iff.mp htext
      obtain ⟨i, hi⟩ := charsOfUnits?_eq_none_iff.mp hnone
      exact absurd hi (h i)

end IccProfile.Text
