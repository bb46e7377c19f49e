import IccProfile.Proofs.Bytes
import IccProfile.Text.Ascii
import IccProfile.Text.Utf16
import Mathlib.Data.List.TakeWhile

/-!
# What storage keeps of a text

Stored text ends at its first zero. `beforeNul` is the part of a text that a zero
leaves; `asciiForm` is what single byte storage keeps, a question mark for each byte
of the UTF-8 form of a character outside ASCII.

Reading the single byte form gives `beforeNul (asciiForm s)` (`ofBytes_toAscii`),
reading the UTF-16 form gives `beforeNul s` (`ofUtf16?_toUtf16`), and a code of at
most two ASCII characters without NUL survives its two bytes (`ofBytes_code2`).
-/

set_option autoImplicit false

namespace IccProfile.Text

/-- The part of a text before its first NUL. -/
def beforeNul (s : String) : String := String.ofList (s.toList.takeWhile (· ≠ '\x00'))

/-- The characters that single byte storage keeps of a character. -/
def asciiChars (c : Char) : List Char :=
  if c.toNat < 128 then [c] else List.replicate c.utf8Size '?'

/-- The text that single byte storage keeps, up to its end. -/
def asciiForm (s : String) : String := String.ofList (s.toList.flatMap asciiChars)

/-- A text without NUL. -/
def NulFree (s : String) : Prop := ∀ c ∈ s.toList, c ≠ '\x00'

/-- A text that fits a field for a language or a country. -/
def IsCode (s : String) : Prop :=
  s.toList.length ≤ 2 ∧ ∀ c ∈ s.toList, c.toNat < 128 ∧ c ≠ '\x00'

instance (s : String) : Decidable (NulFree s) := List.decidableBAll _ _

instance (s : String) : Decidable (IsCode s) :=
  have : Decidable (∀ c ∈ s.toList, c.toNat < 128 ∧ c ≠ '\x00') := List.decidableBAll _ _
  instDecidableAnd

/-- A map that fixes the members of a list fixes the list. -/
theorem map_eq_self {α : Type} {f : α → α} {l : List α} (h : ∀ a ∈ l, f a = a) : l.map f = l :=
  (List.map_congr_left h).trans (List.map_id l)

theorem beforeNul_eq_self {s : String} (h : NulFree s) : beforeNul s = s := by
  have hall : s.toList.takeWhile (· ≠ '\x00') = s.toList :=
    List.takeWhile_eq_self_iff.mpr fun c hc => decide_eq_true (h c hc)
  rw [beforeNul, hall, String.ofList_toList]

theorem asciiForm_eq_self {s : String} (h : isAscii s = true) : asciiForm s = s := by
  have hchars : ∀ cs : List Char, (∀ c ∈ cs, c.toNat < 128) → cs.flatMap asciiChars = cs := by
    intro cs hcs
    induction cs with
    | nil => rfl
    | cons c cs ih =>
        rw [List.flatMap_cons, ih (fun d hd => hcs d (List.mem_cons_of_mem c hd)), asciiChars,
          if_pos (hcs c List.mem_cons_self)]
        rfl
  have hascii : ∀ c ∈ s.toList, c.toNat < 128 := by
    simpa [isAscii] using h
  rw [asciiForm, hchars s.toList hascii, String.ofList_toList]

/-! ## Single byte text -/

/-- The byte of an ASCII character. -/
def byteOfChar (c : Char) : UInt8 := UInt8.ofNat c.toNat

theorem toNat_byteOfChar {c : Char} (h : c.toNat < 128) : (byteOfChar c).toNat = c.toNat := by
  rw [byteOfChar, UInt8.toNat_ofNat']
  omega

theorem charOfByte_byteOfChar {c : Char} (h : c.toNat < 128) : charOfByte (byteOfChar c) = c := by
  rw [charOfByte, toNat_byteOfChar h, Char.ofNat_toNat]

theorem byteOfChar_eq_zero_iff {c : Char} (h : c.toNat < 128) :
    byteOfChar c = 0 ↔ c = '\x00' := by
  constructor
  · intro hzero
    rw [← charOfByte_byteOfChar h, hzero]
    rfl
  · rintro rfl
    rfl

/-- Bytes of ASCII characters read as these characters, up to the first NUL. -/
theorem ofBytes_map_byteOfChar (cs : List Char) (rest : Bytes)
    (hcs : ∀ c ∈ cs, c.toNat < 128) :
    ofBytes (cs.map byteOfChar ++ 0 :: rest) = beforeNul (String.ofList cs) := by
  rw [ofBytes, beforeNul, String.toList_ofList]
  congr 1
  -- the bytes end at their first zero, the characters at their first NUL
  induction cs with
  | nil => simp
  | cons c cs ih =>
      have hc := hcs c List.mem_cons_self
      have ih := ih (fun d hd => hcs d (List.mem_cons_of_mem c hd))
      by_cases hnul : c = '\x00'
      · subst hnul
        rfl
      · have hbyte : byteOfChar c ≠ 0 := fun h => hnul ((byteOfChar_eq_zero_iff hc).mp h)
        simp only [List.map_cons, List.cons_append, List.takeWhile_cons, decide_eq_true hbyte,
          decide_eq_true hnul, if_true, charOfByte_byteOfChar hc, ih]

/-- The UTF-8 form of an ASCII character is its byte. -/
theorem utf8EncodeChar_of_ascii {c : Char} (h : c.toNat < 128) :
    String.utf8EncodeChar c = [byteOfChar c] := by
  have hval : c.val.toNat ≤ 0x7f := by
    change c.toNat ≤ 0x7f
    omega
  rw [String.utf8EncodeChar]
  simp only [hval, if_true]
  rfl

/-- The UTF-8 form of any other character has no byte in ASCII. -/
theorem le_of_mem_utf8EncodeChar {c : Char} (h : ¬ c.toNat < 128) {b : UInt8}
    (hb : b ∈ String.utf8EncodeChar c) : 128 ≤ b.toNat := by
  have hval : ¬ c.val.toNat ≤ 0x7f := by
    change ¬ c.toNat ≤ 0x7f
    omega
  have hmax : c.val.toNat < 0x110000 := by
    rcases c.valid with hlow | hhigh
    · exact Nat.lt_trans hlow (by decide)
    · exact hhigh.2
  unfold String.utf8EncodeChar at hb
  simp only [hval, if_false] at hb
  -- one case for each length of the form, and in it one for each byte
  split at hb
  · simp only [List.mem_cons, List.not_mem_nil, or_false] at hb
    rcases hb with rfl | rfl <;> (simp only [UInt8.toNat_ofNat']; omega)
  · split at hb
    · simp only [List.mem_cons, List.not_mem_nil, or_false] at hb
      rcases hb with rfl | rfl | rfl <;> (simp only [UInt8.toNat_ofNat']; omega)
    · simp only [List.mem_cons, List.not_mem_nil, or_false] at hb
      rcases hb with rfl | rfl | rfl | rfl <;> (simp only [UInt8.toNat_ofNat']; omega)

theorem asciiByte_of_lt {b : UInt8} (h : b.toNat < 128) : asciiByte b = b := by
  rw [asciiByte, if_pos (UInt8.lt_iff_toNat_lt.mpr h)]

theorem asciiByte_of_le {b : UInt8} (h : 128 ≤ b.toNat) : asciiByte b = byteOfChar '?' := by
  have hlt : ¬ b < 128 := fun hb => Nat.not_lt.mpr h (UInt8.lt_iff_toNat_lt.mp hb)
  rw [asciiByte, if_neg hlt]
  rfl

/-- The stored bytes of a character are those of the characters that storage keeps. -/
theorem map_asciiByte_utf8EncodeChar (c : Char) :
    (String.utf8EncodeChar c).map asciiByte = (asciiChars c).map byteOfChar := by
  by_cases hc : c.toNat < 128
  · have hbyte : asciiByte (byteOfChar c) = byteOfChar c :=
      asciiByte_of_lt (by rwa [toNat_byteOfChar hc])
    rw [utf8EncodeChar_of_ascii hc, asciiChars, if_pos hc, List.map_singleton,
      List.map_singleton, hbyte]
  -- outside ASCII each byte of the form is stored as a question mark
  · rw [asciiChars, if_neg hc, List.map_replicate, ← String.length_utf8EncodeChar]
    apply List.eq_replicate_iff.mpr
    refine ⟨List.length_map .., ?_⟩
    intro b hb
    obtain ⟨d, hd, rfl⟩ := List.mem_map.mp hb
    exact asciiByte_of_le (le_of_mem_utf8EncodeChar hc hd)

theorem toAscii_eq (s : String) : toAscii s = (s.toList.flatMap asciiChars).map byteOfChar := by
  simp only [toAscii, utf8, List.map_flatMap, map_asciiByte_utf8EncodeChar]

theorem asciiChars_lt (c : Char) : ∀ d ∈ asciiChars c, d.toNat < 128 := by
  intro d hd
  unfold asciiChars at hd
  split at hd
  · next h =>
      rw [List.mem_singleton] at hd
      rwa [hd]
  · rw [List.eq_of_mem_replicate hd]
    decide

/-- Reading the single byte form of a text. -/
theorem ofBytes_toAscii (s : String) (rest : Bytes) :
    ofBytes (toAscii s ++ 0 :: rest) = beforeNul (asciiForm s) := by
  rw [toAscii_eq, asciiForm]
  apply ofBytes_map_byteOfChar
  intro d hd
  obtain ⟨c, -, hdc⟩ := List.mem_flatMap.mp hd
  exact asciiChars_lt c d hdc

/-- The size of a text is that of its UTF-8 form. -/
theorem utf8ByteSize_eq (s : String) : s.utf8ByteSize = (utf8 s).length := by
  rw [← String.size_toByteArray, ← String.utf8Encode_toList, List.utf8Encode,
    List.size_toByteArray, utf8]

/-- The character of a byte has a form of one byte in ASCII, and else of two. -/
theorem utf8Size_charOfByte (b : UInt8) :
    (charOfByte b).utf8Size = if 128 ≤ b.toNat then 2 else 1 := by
  have hb := b.toNat_lt
  have hnat : (charOfByte b).val.toNat = b.toNat := by
    rw [charOfByte, Char.ofNat, dif_pos (.inl (by omega))]
    rfl
  simp only [Char.utf8Size, UInt32.le_iff_toNat_le, UInt32.toNat_ofNatLT, hnat]
  by_cases hwide : 128 ≤ b.toNat
  · rw [if_pos hwide, if_neg (by omega), if_pos (by omega)]
  · rw [if_neg hwide, if_pos (by omega)]

/-- The text of bytes has the size of the bytes before the first zero, with those outside ASCII
counted twice. -/
theorem utf8ByteSize_ofBytes (bs : Bytes) :
    (ofBytes bs).utf8ByteSize =
      (bs.takeWhile (· ≠ 0)).length + (bs.takeWhile (· ≠ 0)).countP (128 ≤ ·.toNat) := by
  have hchars (part : Bytes) :
      ((part.map charOfByte).flatMap String.utf8EncodeChar).length =
        part.length + part.countP (128 ≤ ·.toNat) := by
    induction part with
    | nil => rfl
    | cons b rest ih =>
        rw [List.map_cons, List.flatMap_cons, List.length_append, ih,
          String.length_utf8EncodeChar, utf8Size_charOfByte, List.length_cons, List.countP_cons]
        by_cases hb : 128 ≤ b.toNat
        · simp only [hb, if_true, decide_true]
          omega
        · simp only [hb, if_false, decide_false, Bool.false_eq_true]
          omega
  rw [utf8ByteSize_eq, utf8, ofBytes, String.toList_ofList]
  exact hchars _

/-! ## Codes of languages and countries -/

theorem utf8_of_ascii {s : String} (h : ∀ c ∈ s.toList, c.toNat < 128) :
    utf8 s = s.toList.map byteOfChar := by
  have hchars : ∀ cs : List Char, (∀ c ∈ cs, c.toNat < 128) →
      cs.flatMap String.utf8EncodeChar = cs.map byteOfChar := by
    intro cs hcs
    induction cs with
    | nil => rfl
    | cons c cs ih =>
        rw [List.flatMap_cons, List.map_cons, utf8EncodeChar_of_ascii (hcs c List.mem_cons_self),
          ih (fun d hd => hcs d (List.mem_cons_of_mem c hd)), List.singleton_append]
  exact hchars s.toList h

/-- Bytes that end in a zero or with the byte string read the same. -/
theorem ofBytes_append_zero (bs : Bytes) : ofBytes (bs ++ [0]) = ofBytes bs := by
  rw [ofBytes, ofBytes, List.takeWhile_append]
  split
  · next hall =>
      rw [List.takeWhile_cons_of_neg (by decide), List.append_nil,
        (List.takeWhile_prefix _).eq_of_length hall]
  · rfl

/-- A code reads back from its two bytes. -/
theorem ofBytes_code2 {s : String} (h : IsCode s) : ofBytes (code2 s) = s := by
  obtain ⟨hlength, hchars⟩ := h
  have hascii : ∀ c ∈ s.toList, c.toNat < 128 := fun c hc => (hchars c hc).1
  have hnul : NulFree s := fun c hc => (hchars c hc).2
  have htwo : ((utf8 s).take 2) = s.toList.map byteOfChar := by
    rw [utf8_of_ascii hascii, List.take_of_length_le (by rwa [List.length_map])]
  have hzero : ofBytes (s.toList.map byteOfChar) = s := by
    rw [← ofBytes_append_zero, ofBytes_map_byteOfChar s.toList [] hascii, String.ofList_toList,
      beforeNul_eq_self hnul]
  rw [code2, htwo]
  simp only [List.length_map]
  -- none, one or two zeros fill the field up
  obtain hn | hn | hn : 2 - s.toList.length = 0 ∨ 2 - s.toList.length = 1 ∨
      2 - s.toList.length = 2 := by omega
  · rw [hn, List.replicate_zero, List.append_nil, hzero]
  · rw [hn, List.replicate_one, ofBytes_append_zero, hzero]
  · rw [hn, show List.replicate 2 (0 : UInt8) = [0] ++ [0] from rfl, ← List.append_assoc,
      ofBytes_append_zero, ofBytes_append_zero, hzero]

/-! ## UTF-16 text -/

/-- The whole units of stored units. -/
theorem unitsOfBytes_flatMap (us : List UInt16) :
    unitsOfBytes (us.flatMap Bytes.ofWord16) = us := by
  induction us with
  | nil => rfl
  | cons u us ih =>
      have hu := u.toNat_lt
      -- a unit is made of the two bytes that it was taken apart into
      have hunit : UInt16.ofNat
          ((UInt8.ofNat (u.toNat / 256)).toNat * 256 + (UInt8.ofNat u.toNat).toNat) = u := by
        apply UInt16.toNat_inj.mp
        simp only [UInt16.toNat_ofNat', UInt8.toNat_ofNat']
        omega
      have hbytes : Bytes.ofWord16 u = [UInt8.ofNat (u.toNat / 256), UInt8.ofNat u.toNat] := by
        simp [Bytes.ofWord16, Bytes.ofNat, Bytes.capacity]
      rw [List.flatMap_cons, hbytes, List.cons_append, List.cons_append, List.nil_append,
        unitsOfBytes, ih, hunit]

/-- The number of a character in the basic plane is no surrogate. -/
theorem char_ranges (c : Char) : c.toNat < 0xD800 ∨ 0xE000 ≤ c.toNat ∧ c.toNat < 0x110000 := by
  rcases c.valid with h | h
  · exact Or.inl h
  · exact Or.inr ⟨h.1, h.2⟩

/-- A unit that is no surrogate is read as its character. -/
theorem charsOfUnits?_basic {u : UInt16} (rest : List UInt16) (hlow : isLowSurrogate u = false)
    (hhigh : isHighSurrogate u = false) :
    charsOfUnits? (u :: rest) = (charsOfUnits? rest).map (Char.ofNat u.toNat :: ·) := by
  rw [charsOfUnits?.eq_def]
  simp only [hlow, hhigh, Bool.false_eq_true, if_false]

theorem isLowSurrogate_of_high {u : UInt16} (h : isHighSurrogate u = true) :
    isLowSurrogate u = false := by
  simp only [isHighSurrogate, isLowSurrogate, Bool.and_eq_true, decide_eq_true_eq,
    Bool.and_eq_false_iff, decide_eq_false_iff_not] at h ⊢
  omega

/-- The halves of a surrogate pair are read as their character. -/
theorem charsOfUnits?_pair {u v : UInt16} (rest : List UInt16) (hu : isHighSurrogate u = true)
    (hv : isLowSurrogate v = true) :
    charsOfUnits? (u :: v :: rest) = (charsOfUnits? rest).map (charOfPair u v :: ·) := by
  rw [charsOfUnits?.eq_def]
  simp only [isLowSurrogate_of_high hu, hu, hv, Bool.false_eq_true, if_false, if_true]

/-- A character in the basic plane is stored as one unit, which is no surrogate. -/
theorem basic_unit {c : Char} (h : c.toNat < 0x10000) :
    (UInt16.ofNat c.toNat).toNat = c.toNat ∧ isLowSurrogate (UInt16.ofNat c.toNat) = false ∧
      isHighSurrogate (UInt16.ofNat c.toNat) = false := by
  have hranges := char_ranges c
  have hunit : (UInt16.ofNat c.toNat).toNat = c.toNat := by
    rw [UInt16.toNat_ofNat']
    omega
  refine ⟨hunit, ?_, ?_⟩
  · rw [isLowSurrogate, hunit, Bool.and_eq_false_iff, decide_eq_false_iff_not,
      decide_eq_false_iff_not]
    omega
  · rw [isHighSurrogate, hunit, Bool.and_eq_false_iff, decide_eq_false_iff_not,
      decide_eq_false_iff_not]
    omega

/-- The two halves for an offset into the planes above the basic one. -/
theorem pair_units {n : Nat} (h : n < 0x100000) :
    isHighSurrogate (UInt16.ofNat (0xD800 + n / 0x400)) = true ∧
      isLowSurrogate (UInt16.ofNat (0xDC00 + n % 0x400)) = true ∧
      charOfPair (UInt16.ofNat (0xD800 + n / 0x400)) (UInt16.ofNat (0xDC00 + n % 0x400)) =
        Char.ofNat (0x10000 + n) := by
  have hfirst : (UInt16.ofNat (0xD800 + n / 0x400)).toNat = 0xD800 + n / 0x400 := by
    rw [UInt16.toNat_ofNat']
    omega
  have hsecond : (UInt16.ofNat (0xDC00 + n % 0x400)).toNat = 0xDC00 + n % 0x400 := by
    rw [UInt16.toNat_ofNat']
    omega
  refine ⟨?_, ?_, ?_⟩
  · rw [isHighSurrogate, hfirst, Bool.and_eq_true, decide_eq_true_eq, decide_eq_true_eq]
    omega
  · rw [isLowSurrogate, hsecond, Bool.and_eq_true, decide_eq_true_eq, decide_eq_true_eq]
    omega
  · have hsum : 0x10000 + (0xD800 + n / 0x400 - 0xD800) * 0x400 +
        (0xDC00 + n % 0x400 - 0xDC00) = 0x10000 + n := by omega
    rw [charOfPair, hfirst, hsecond, hsum]

/-- The units of a character are read as this character, whatever follows. -/
theorem charsOfUnits?_append (c : Char) (rest : List UInt16) :
    charsOfUnits? (unitsOfChar c ++ rest) = (charsOfUnits? rest).map (c :: ·) := by
  by_cases hbasic : c.toNat < 0x10000
  · obtain ⟨hunit, hlow, hhigh⟩ := basic_unit hbasic
    rw [unitsOfChar, if_pos hbasic, List.singleton_append, charsOfUnits?_basic rest hlow hhigh,
      hunit, Char.ofNat_toNat]
  -- above the basic plane a character is stored as a surrogate pair
  · have hranges := char_ranges c
    obtain ⟨hhigh, hlow, hpair⟩ := pair_units (n := c.toNat - 0x10000) (by omega)
    have hsum : 0x10000 + (c.toNat - 0x10000) = c.toNat := by omega
    rw [unitsOfChar, if_neg hbasic, List.cons_append, List.singleton_append,
      charsOfUnits?_pair rest hhigh hlow, hpair, hsum, Char.ofNat_toNat]

theorem charsOfUnits?_flatMap (cs : List Char) :
    charsOfUnits? (cs.flatMap unitsOfChar) = some cs := by
  induction cs with
  | nil => rfl
  | cons c cs ih => rw [List.flatMap_cons, charsOfUnits?_append, ih, Option.map_some]

/-- A unit of a character is zero only for NUL. -/
theorem ne_zero_of_mem_unitsOfChar {c : Char} (hc : c ≠ '\x00') :
    ∀ u ∈ unitsOfChar c, u ≠ 0 := by
  have hranges := char_ranges c
  have hpos : c.toNat ≠ 0 := by
    intro hzero
    apply hc
    rw [← Char.ofNat_toNat c, hzero]
  intro u hu hzero
  have hnat : u.toNat = 0 := by rw [hzero]; rfl
  unfold unitsOfChar at hu
  split at hu
  · rw [List.mem_singleton] at hu
    rw [hu, UInt16.toNat_ofNat'] at hnat
    omega
  · simp only [List.mem_cons, List.not_mem_nil, or_false] at hu
    rcases hu with rfl | rfl <;> (rw [UInt16.toNat_ofNat'] at hnat; omega)

/-- The units before the first zero are those of the characters before the first NUL. -/
theorem takeWhile_flatMap_unitsOfChar (cs : List Char) :
    (cs.flatMap unitsOfChar).takeWhile (· ≠ 0) =
      (cs.takeWhile (· ≠ '\x00')).flatMap unitsOfChar := by
  induction cs with
  | nil => rfl
  | cons c cs ih =>
      by_cases hc : c = '\x00'
      · subst hc
        rfl
      -- no unit of another character is zero, so the walk takes all of them
      · have hunits := ne_zero_of_mem_unitsOfChar hc
        rw [List.flatMap_cons,
          List.takeWhile_append_of_pos (fun u hu => decide_eq_true (hunits u hu)), ih]
        simp only [List.takeWhile_cons, decide_eq_true hc, if_true, List.flatMap_cons]

/-- Reading the UTF-16 form of a text. -/
theorem ofUtf16?_toUtf16 (s : String) : ofUtf16? (toUtf16 s) = some (beforeNul s) := by
  rw [ofUtf16?, toUtf16, unitsOfBytes_flatMap, takeWhile_flatMap_unitsOfChar,
    charsOfUnits?_flatMap]
  rfl

end IccProfile.Text
