/-!
# Byte strings

A profile is a string of bytes in which every number is written most significant
byte first. This module holds the number codec of one width (`ofNat`, `toNat`),
bounded reads (`slice?`, `u16At?`, `u32At?`), the length preserving overwrite
`patch`, and the padding to multiples of four that tag blocks need.

`toNat_ofNat` and `ofNat_toNat` say that the number codec inverts;
`slice?_eq_some_iff` says which bytes a bounded read returns.
-/

set_option autoImplicit false

namespace IccProfile

/-- A string of bytes. -/
abbrev Bytes := List UInt8

namespace Bytes

/-- The number of values that `width` bytes can hold. -/
def capacity (width : Nat) : Nat := Nat.pow 256 width

/-- The `width` low bytes of a number, most significant first. -/
def ofNat : (width n : Nat) → Bytes
  | 0, _ => []
  | width + 1, n => UInt8.ofNat (n / capacity width) :: ofNat width n

/-- The number that the bytes write, most significant first. -/
def toNat (bs : Bytes) : Nat :=
  bs.foldl (fun n b => n * 256 + b.toNat) 0

/-- Two bytes for a 16 bit word. -/
def ofWord16 (w : UInt16) : Bytes := ofNat 2 w.toNat

/-- Four bytes for a 32 bit word. -/
def ofWord32 (w : UInt32) : Bytes := ofNat 4 w.toNat

/-- Eight bytes for a 64 bit word. -/
def ofWord64 (w : UInt64) : Bytes := ofNat 8 w.toNat

/-- Four bytes for a length or offset, taken modulo `2 ^ 32`. -/
def ofSize (n : Nat) : Bytes := ofNat 4 n

/-- The `size` bytes from `offset` on, when all of them are there. -/
def slice? (bs : Bytes) (offset size : Nat) : Option Bytes :=
  if offset + size ≤ bs.length then some ((bs.drop offset).take size) else none

/-- The 16 bit word at `offset`. -/
def u16At? (bs : Bytes) (offset : Nat) : Option UInt16 :=
  (slice? bs offset 2).map fun b => UInt16.ofNat (toNat b)

/-- The 32 bit word at `offset`. -/
def u32At? (bs : Bytes) (offset : Nat) : Option UInt32 :=
  (slice? bs offset 4).map fun b => UInt32.ofNat (toNat b)

/-- The 32 bit word at `offset`, zero when it is not there. -/
def wordAt (bs : Bytes) (offset : Nat) : UInt32 := (u32At? bs offset).getD 0

/-- Overwrites the bytes at `offset`; bytes that would not fit change nothing. -/
def patch (bs : Bytes) (offset : Nat) (new : Bytes) : Bytes :=
  if offset + new.length ≤ bs.length then
    bs.take offset ++ new ++ bs.drop (offset + new.length)
  else bs

/-- The least multiple of four that is not below `n`. -/
def ceil4 (n : Nat) : Nat := (n + 3) / 4 * 4

/-- The bytes followed by zeros up to a multiple of four. -/
def pad4 (bs : Bytes) : Bytes := bs ++ List.replicate (ceil4 bs.length - bs.length) 0

/-- The offsets and lengths of parts that are stored one after the other from an offset on, each
padded to a multiple of four. -/
def encodeRanges (offset : Nat) : List Bytes → Bytes
  | [] => []
  | part :: rest =>
    ofSize offset ++ ofSize part.length ++ encodeRanges (offset + ceil4 part.length) rest

/-- The first `count` pieces of `size` bytes each. -/
def splitEvery (size : Nat) : (count : Nat) → Bytes → List Bytes
  | 0, _ => []
  | count + 1, bs => bs.take size :: splitEvery size count (bs.drop size)

/-- The whole pieces of `size` bytes, a shorter rest left out. -/
def chunks (size : Nat) (bs : Bytes) : List Bytes :=
  splitEvery size (bs.length / size) bs

/-! ## Hexadecimal text -/

/-- The lower case digit of a number below 16. -/
def hexDigit (n : Nat) : Char :=
  if n < 10 then Char.ofNat (48 + n) else Char.ofNat (87 + n)

/-- Two lower case digits for each byte. -/
def toHex (bs : Bytes) : String :=
  String.ofList (bs.flatMap fun b => [hexDigit (b.toNat / 16), hexDigit (b.toNat % 16)])

/-- The value of a digit in either case. -/
def hexValue? (c : Char) : Option Nat :=
  if '0' ≤ c ∧ c ≤ '9' then some (c.toNat - 48)
  else if 'a' ≤ c ∧ c ≤ 'f' then some (c.toNat - 87)
  else if 'A' ≤ c ∧ c ≤ 'F' then some (c.toNat - 55)
  else none

/-! ## Laws -/

@[simp] theorem length_ofNat (width n : Nat) : (ofNat width n).length = width := by
  induction width with
  | zero => rfl
  | succ width ih => simp [ofNat, ih]

@[simp] theorem capacity_zero : capacity 0 = 1 := rfl

theorem capacity_succ (width : Nat) : capacity (width + 1) = capacity width * 256 := rfl

theorem capacity_pos (width : Nat) : 0 < capacity width := by
  induction width with
  | zero => decide
  | succ width ih =>
    rw [capacity_succ]
    omega

theorem foldl_eq (bs : Bytes) (n : Nat) :
    bs.foldl (fun n b => n * 256 + b.toNat) n = n * capacity bs.length + toNat bs := by
  induction bs generalizing n with
  | nil => simp [toNat]
  | cons b bs ih =>
    have step := ih b.toNat
    simp only [toNat, List.foldl_cons, Nat.zero_mul, Nat.zero_add, List.length_cons] at step ⊢
    rw [ih, step, Nat.add_mul, capacity_succ, Nat.mul_comm (capacity bs.length) 256,
      Nat.mul_assoc, Nat.add_assoc]
    rfl

theorem toNat_cons (b : UInt8) (bs : Bytes) :
    toNat (b :: bs) = b.toNat * capacity bs.length + toNat bs := by
  rw [toNat, List.foldl_cons, foldl_eq, Nat.zero_mul, Nat.zero_add]

/-- Reading back gives the number modulo the width. -/
theorem toNat_ofNat (width n : Nat) : toNat (ofNat width n) = n % capacity width := by
  induction width with
  | zero =>
    rw [capacity_zero, Nat.mod_one]
    rfl
  | succ width ih =>
    have digit : (UInt8.ofNat (n / capacity width)).toNat = n / capacity width % 256 :=
      UInt8.toNat_ofNat'
    rw [ofNat, toNat_cons, length_ofNat, ih, digit, capacity_succ, Nat.mod_mul, Nat.mul_comm,
      Nat.add_comm]

theorem toNat_lt (bs : Bytes) : toNat bs < capacity bs.length := by
  induction bs with
  | nil => decide
  | cons b bs ih =>
    have hb : b.toNat < 256 := b.toNat_lt
    rw [toNat_cons, List.length_cons, capacity_succ, Nat.mul_comm (capacity bs.length) 256]
    calc b.toNat * capacity bs.length + toNat bs
        < b.toNat * capacity bs.length + capacity bs.length := Nat.add_lt_add_left ih _
      _ = (b.toNat + 1) * capacity bs.length := by rw [Nat.add_mul, Nat.one_mul]
      _ ≤ 256 * capacity bs.length := Nat.mul_le_mul_right _ hb

/-- Bytes are the written form of the number they write. -/
theorem ofNat_toNat (bs : Bytes) : ofNat bs.length (toNat bs) = bs := by
  have shift : ∀ (width k n : Nat), ofNat width (k * capacity width + n) = ofNat width n := by
    intro width
    induction width with
    | zero => intro k n; rfl
    | succ width ih =>
      intro k n
      have split : k * capacity (width + 1) + n = k * 256 * capacity width + n := by
        rw [capacity_succ, Nat.mul_comm (capacity width) 256, Nat.mul_assoc]
      have div : (k * 256 * capacity width + n) / capacity width
          = k * 256 + n / capacity width := by
        rw [Nat.add_comm, Nat.add_mul_div_right _ _ (capacity_pos width), Nat.add_comm]
      simp only [ofNat, split, div, ih (k * 256) n, List.cons.injEq, and_true]
      apply UInt8.toNat_inj.mp
      simp only [UInt8.toNat_ofNat']
      omega
  induction bs with
  | nil => rfl
  | cons b bs ih =>
    have div : (b.toNat * capacity bs.length + toNat bs) / capacity bs.length = b.toNat := by
      rw [Nat.add_comm, Nat.add_mul_div_right _ _ (capacity_pos bs.length),
        Nat.div_eq_of_lt (toNat_lt bs), Nat.zero_add]
    rw [toNat_cons, List.length_cons, ofNat, div, shift, ih, UInt8.ofNat_toNat]

@[simp] theorem length_ofWord16 (w : UInt16) : (ofWord16 w).length = 2 := length_ofNat ..

@[simp] theorem length_ofWord32 (w : UInt32) : (ofWord32 w).length = 4 := length_ofNat ..

@[simp] theorem length_ofWord64 (w : UInt64) : (ofWord64 w).length = 8 := length_ofNat ..

@[simp] theorem length_ofSize (n : Nat) : (ofSize n).length = 4 := length_ofNat ..

@[simp] theorem length_encodeRanges (offset : Nat) (parts : List Bytes) :
    (encodeRanges offset parts).length = parts.length * 8 := by
  induction parts generalizing offset with
  | nil => rfl
  | cons part rest ih =>
    simp only [encodeRanges, List.length_append, length_ofSize, ih, List.length_cons]
    omega

/-- A bounded read succeeds exactly when a part of the asked size starts at the offset. -/
theorem slice?_eq_some_iff {bs part : Bytes} {offset size : Nat} :
    slice? bs offset size = some part ↔
      offset + size ≤ bs.length ∧ part = (bs.drop offset).take size := by
  unfold slice?
  split
  · next h => simp [h, eq_comm]
  · next h => simp [h]

theorem length_of_slice? {bs part : Bytes} {offset size : Nat}
    (h : slice? bs offset size = some part) : part.length = size := by
  obtain ⟨hle, rfl⟩ := slice?_eq_some_iff.mp h
  simp
  omega

@[simp] theorem length_patch (bs : Bytes) (offset : Nat) (new : Bytes) :
    (patch bs offset new).length = bs.length := by
  unfold patch
  split
  · next h =>
    simp
    omega
  · rfl

theorem le_ceil4 (n : Nat) : n ≤ ceil4 n := by
  unfold ceil4
  omega

@[simp] theorem length_pad4 (bs : Bytes) : (pad4 bs).length = ceil4 bs.length := by
  have h := le_ceil4 bs.length
  simp [pad4]
  omega

end Bytes

end IccProfile
