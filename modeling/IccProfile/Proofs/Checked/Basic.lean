import IccProfile.Proofs.Bytes
import Mathlib.Algebra.GroupWithZero.Nat

/-!
# Execution with checks

The definitions of this library compute with numbers and lists that have no bounds. A
machine has words of 64 bits and stops when a sum or product leaves them, when a range or
an index lies outside a list, and when bytes are copied into a range of another length.
`Checked` runs carry these checks: each operation that can stop is written out, in the
order in which a machine meets it, and says why it stopped (`Halt`).

A run may also find that memory holds no more (`Halt.memory`), which it does for a piece of
`2 ^ 63` bytes or pieces of `2 ^ 64` bytes together at the latest; the lengths of what memory
does hold bound all later sums. `Gives x v` says that a run stops for no other reason and
otherwise gives `v`. It is what is proved of every checked definition, with the value of the
definition without checks for `v`.
-/

set_option autoImplicit false

namespace IccProfile

/-- Why a run with checks stops. -/
inductive Halt
  /-- A sum or product that a word does not hold. -/
  | overflow
  /-- A range or an index outside a list. -/
  | range
  /-- A copy into a range of another length. -/
  | length
  /-- More than memory holds. -/
  | memory
deriving DecidableEq

/-- A run with checks. -/
abbrev Checked (α : Type) := Except Halt α

namespace Checked

/-! ## Numbers -/

/-- A sum of words. -/
def add (a b : Nat) : Checked Nat := if a + b < 2 ^ 64 then .ok (a + b) else .error .overflow

/-- A product of words. -/
def mul (a b : Nat) : Checked Nat := if a * b < 2 ^ 64 then .ok (a * b) else .error .overflow

/-- A sum, when a word holds it. -/
def add? (a b : Nat) : Option Nat := if a + b < 2 ^ 64 then some (a + b) else none

/-- A product, when a word holds it. -/
def mul? (a b : Nat) : Option Nat := if a * b < 2 ^ 64 then some (a * b) else none

/-- A sum of words of 32 bits. -/
def addWord (a b : UInt32) : Checked UInt32 :=
  if a.toNat + b.toNat < 2 ^ 32 then .ok (a + b) else .error .overflow

/-- The sum of a list of words. -/
def sum (numbers : List Nat) : Checked Nat := numbers.foldlM add 0

/-- A sum, the greatest word in place of one that is too great. -/
def addUpTo (a b : Nat) : Nat := min (a + b) (2 ^ 64 - 1)

/-- The least multiple of four that is not below a number, found by clearing the two low bits. -/
def ceil4 (n : Nat) : Checked Nat := do
  let above ← add n 3
  return above - above % 4

/-! ## Lists -/

section Lists

variable {α : Type}

/-- The elements from `start` up to `stop`, when the range lies in the list. -/
def get? (xs : List α) (start stop : Nat) : Option (List α) :=
  if start ≤ stop ∧ stop ≤ xs.length then some ((xs.drop start).take (stop - start)) else none

/-- The elements from `start` up to `stop`. -/
def slice (xs : List α) (start stop : Nat) : Checked (List α) :=
  match get? xs start stop with
  | some part => .ok part
  | none => .error .range

/-- The element at a place. -/
def item (xs : List α) (i : Nat) : Checked α :=
  match xs[i]? with
  | some x => .ok x
  | none => .error .range

/-- The list with an element inserted at a place. -/
def insert (xs : List α) (i : Nat) (x : α) : Checked (List α) :=
  if i ≤ xs.length then .ok (xs.insertIdx i x) else .error .range

/-- The list without the element at a place. -/
def remove (xs : List α) (i : Nat) : Checked (List α) :=
  if i < xs.length then .ok (xs.eraseIdx i) else .error .range

end Lists

/-- The bytes with those from `start` up to `stop` replaced by a copy of others. -/
def copy (bs : Bytes) (start stop : Nat) (new : Bytes) : Checked Bytes := do
  let old ← slice bs start stop
  if old.length = new.length then return Bytes.patch bs start new else .error .length

/-- The bytes with zeros from `start` up to `stop`. -/
def clear (bs : Bytes) (start stop : Nat) : Checked Bytes := do
  let old ← slice bs start stop
  return Bytes.patch bs start (List.replicate old.length 0)

/-! ## Memory -/

/-- Bytes that memory holds in one piece. -/
def hold (bs : Bytes) : Checked Bytes :=
  if bs.length < 2 ^ 63 then .ok bs else .error .memory

/-- A text that memory holds in one piece. -/
def holdText (text : String) : Checked String :=
  if text.utf8ByteSize < 2 ^ 63 then .ok text else .error .memory

/-- Whether memory may hold pieces of the given sizes at once, each with a record beside it. -/
def Fits (record : Nat) (sizes : List Nat) : Prop :=
  (∀ size ∈ sizes, size < 2 ^ 63) ∧ sizes.sum + record * sizes.length < 2 ^ 64

instance (record : Nat) (sizes : List Nat) : Decidable (Fits record sizes) :=
  inferInstanceAs (Decidable (_ ∧ _))

/-- Pieces of the given sizes that memory holds at once. -/
def holdAll (record : Nat) (sizes : List Nat) : Checked Unit :=
  if Fits record sizes then .ok () else .error .memory

/-! ## Runs that give a value -/

section Gives

variable {α β : Type}

/-- The run gives the value unless memory ends. -/
def Gives (x : Checked α) (v : α) : Prop := x = .ok v ∨ x = .error .memory

theorem gives_ok (v : α) : Gives (.ok v) v := .inl rfl

@[simp] theorem ok_bind (v : α) (f : α → Checked β) : ((.ok v : Checked α) >>= f) = f v := rfl

@[simp] theorem pure_eq (v : α) : (pure v : Checked α) = .ok v := rfl

variable {x : Checked α} {f : α → Checked β} {v : α} {w : β}

/-- A run goes on with the value that its first part gives. -/
theorem Gives.bind (hx : Gives x v) (hf : Gives (f v) w) : Gives (x >>= f) w := by
  rcases hx with rfl | rfl
  · exact hf
  · exact .inr rfl

/-- A run goes on with bytes that memory holds. -/
theorem gives_hold {f : Bytes → Checked β} {bs : Bytes}
    (hf : bs.length < 2 ^ 63 → Gives (f bs) w) : Gives (hold bs >>= f) w := by
  unfold hold
  split
  · next hlength => exact hf hlength
  · exact .inr rfl

theorem hold_gives (bs : Bytes) : Gives (hold bs) bs := by
  unfold hold
  split
  · exact .inl rfl
  · exact .inr rfl

theorem gives_holdAll {f : Unit → Checked β} {record : Nat} {sizes : List Nat}
    (hf : Fits record sizes → Gives (f ()) w) : Gives (holdAll record sizes >>= f) w := by
  unfold holdAll
  split
  · next hfits => exact hf hfits
  · exact .inr rfl

theorem gives_holdText {f : String → Checked β} {text : String}
    (hf : text.utf8ByteSize < 2 ^ 63 → Gives (f text) w) :
    Gives (holdText text >>= f) w := by
  unfold holdText
  split
  · next hlength => exact hf hlength
  · exact .inr rfl

end Gives

/-! ## Operations within bounds -/

theorem add_eq {a b : Nat} (h : a + b < 2 ^ 64) : add a b = .ok (a + b) := if_pos h

theorem mul_eq {a b : Nat} (h : a * b < 2 ^ 64) : mul a b = .ok (a * b) := if_pos h

theorem add?_eq {a b : Nat} (h : a + b < 2 ^ 64) : add? a b = some (a + b) := if_pos h

theorem addWord_eq {a b : UInt32} (h : a.toNat + b.toNat < 2 ^ 32) : addWord a b = .ok (a + b) :=
  if_pos h

theorem sum_eq {numbers : List Nat} (h : numbers.sum < 2 ^ 64) : sum numbers = .ok numbers.sum := by
  -- the sum so far stays below that of the whole list
  have hfrom (done : Nat) (rest : List Nat) (hrest : done + rest.sum < 2 ^ 64) :
      rest.foldlM add done = .ok (done + rest.sum) := by
    induction rest generalizing done with
    | nil => rfl
    | cons n rest ih =>
        rw [List.sum_cons] at hrest
        rw [List.foldlM_cons, add_eq (by omega), ok_bind, ih (done + n) (by omega), List.sum_cons,
          Nat.add_assoc]
  rw [sum, hfrom 0 numbers (by omega), Nat.zero_add]

/-- Pieces that memory holds at once leave room in a word for a number of bytes beside all of them
and fewer bytes beside each than its record has. -/
theorem Fits.lt {record : Nat} {sizes : List Nat} (h : Fits record sizes) (each beside : Nat)
    (hrecord : 2 * each + beside ≤ 2 * record) (hsmall : each + beside < 2 ^ 63) :
    sizes.sum + each * sizes.length + beside < 2 ^ 64 := by
  obtain ⟨hone, hall⟩ := h
  match sizes, hone, hall with
  | [], _, _ => simp only [List.sum_nil, List.length_nil]; omega
  | [size], hone, _ =>
      have hsize := hone size (List.mem_singleton.mpr rfl)
      simp only [List.sum_cons, List.sum_nil, List.length_cons, List.length_nil]
      omega
  | first :: second :: rest, _, hall =>
      have hrest : each * rest.length ≤ record * rest.length :=
        Nat.mul_le_mul_right _ (by omega)
      simp only [List.length_cons, Nat.mul_add, Nat.mul_one] at hall ⊢
      omega

theorem sum_le_of_sublist {numbers others : List Nat} (h : others.Sublist numbers) :
    others.sum ≤ numbers.sum := by
  induction h with
  | slnil => exact Nat.le_refl _
  | cons n _ ih =>
      rw [List.sum_cons]
      omega
  | cons_cons n _ ih =>
      rw [List.sum_cons, List.sum_cons]
      omega

/-- Memory holds some of the pieces that it holds. -/
theorem Fits.sublist {record : Nat} {sizes others : List Nat} (h : Fits record sizes)
    (hsub : others.Sublist sizes) : Fits record others := by
  have hcount : record * others.length ≤ record * sizes.length :=
    Nat.mul_le_mul_left _ hsub.length_le
  exact ⟨fun size hsize => h.1 size (hsub.subset hsize),
    Nat.lt_of_le_of_lt (Nat.add_le_add (sum_le_of_sublist hsub) hcount) h.2⟩

theorem ceil4_eq {n : Nat} (h : n + 3 < 2 ^ 64) : ceil4 n = .ok (Bytes.ceil4 n) := by
  rw [ceil4, add_eq h, ok_bind, pure_eq, Bytes.ceil4]
  congr 1
  omega

section Lists

variable {α : Type} {xs : List α}

theorem get?_eq {start stop : Nat} (hstart : start ≤ stop) (hstop : stop ≤ xs.length) :
    get? xs start stop = some ((xs.drop start).take (stop - start)) := if_pos ⟨hstart, hstop⟩

theorem slice_eq (xs : List α) (start stop : Nat) (hstart : start ≤ stop)
    (hstop : stop ≤ xs.length) :
    slice xs start stop = .ok ((xs.drop start).take (stop - start)) := by
  rw [slice, get?_eq hstart hstop]

theorem item_eq {i : Nat} (h : i < xs.length) : item xs i = .ok xs[i] := by
  rw [item, List.getElem?_eq_getElem h]

theorem item_eq_getD (xs : List α) (i : Nat) (h : i < xs.length) (x : α) :
    item xs i = .ok (xs.getD i x) := by
  rw [item_eq h, List.getD_eq_getElem?_getD, List.getElem?_eq_getElem h, Option.getD_some]

theorem insert_eq {i : Nat} (h : i ≤ xs.length) (x : α) :
    insert xs i x = .ok (xs.insertIdx i x) := if_pos h

theorem remove_eq {i : Nat} (h : i < xs.length) : remove xs i = .ok (xs.eraseIdx i) := if_pos h

/-- A walk whose every step gives a value gives the list of the values. -/
theorem mapM_eq {β : Type} {f : α → Checked β} {g : α → β} (h : ∀ x ∈ xs, f x = .ok (g x)) :
    xs.mapM f = .ok (xs.map g) := by
  induction xs with
  | nil => rfl
  | cons x rest ih =>
      obtain ⟨hfirst, hrest⟩ := List.forall_mem_cons.mp h
      rw [List.mapM_cons, hfirst, ok_bind, ih hrest]
      rfl

end Lists

section Bytes

variable {bs : Bytes}

/-- A range of a given size is a bounded read. -/
theorem get?_eq_slice? (bs : Bytes) (offset size : Nat) :
    get? bs offset (offset + size) = Bytes.slice? bs offset size := by
  simp [get?, Bytes.slice?]

/-- A range that ends beyond all words is as far outside a byte string as one that ends at the
greatest word. -/
theorem get?_addUpTo (h : bs.length < 2 ^ 63) (offset size : Nat) :
    get? bs offset (addUpTo offset size) = Bytes.slice? bs offset size := by
  unfold addUpTo
  by_cases hfit : offset + size < 2 ^ 64
  · rw [Nat.min_eq_left (by omega), get?_eq_slice?]
  · rw [get?, Bytes.slice?, if_neg, if_neg]
    · omega
    · omega

theorem bind_get?_add? (h : bs.length < 2 ^ 63) (offset size : Nat) :
    (add? offset size).bind (get? bs offset) = Bytes.slice? bs offset size := by
  unfold add?
  split
  · rw [Option.bind_some, get?_eq_slice?]
  · next hfit =>
      rw [Option.bind_none, Bytes.slice?, if_neg]
      omega

/-- A copy into a range of its own length overwrites it. -/
theorem copy_eq {start stop : Nat} {new : Bytes} (hstop : stop = start + new.length)
    (hfit : start + new.length ≤ bs.length) :
    copy bs start stop new = .ok (Bytes.patch bs start new) := by
  subst hstop
  have hlength : ((bs.drop start).take new.length).length = new.length := by
    simp
    omega
  rw [copy, slice_eq _ _ _ (Nat.le_add_right ..) hfit, ok_bind, Nat.add_sub_cancel_left, hlength,
    if_pos rfl, pure_eq]

theorem clear_eq {start stop : Nat} (hstart : start ≤ stop) (hstop : stop ≤ bs.length) :
    clear bs start stop = .ok (Bytes.patch bs start (List.replicate (stop - start) 0)) := by
  have hlength : ((bs.drop start).take (stop - start)).length = stop - start := by
    simp
    omega
  rw [clear, slice_eq _ _ _ hstart hstop, ok_bind, hlength, pure_eq]

end Bytes

end Checked

end IccProfile
