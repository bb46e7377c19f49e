import IccProfile.Proofs.Profile.TagOrder
import IccProfile.Proofs.Profile.View
import Mathlib.Data.List.Induction

/-!
# Setting header fields one after the other

Each header field is a register: it has the value that was last written to it, as far as it holds
it, and no other field sees the write (`field_setField`). The bytes that belong to no field stay as
they are (`untouched_setField`), and so do the tags but for their preferred color module, whether
their list was read or not (`Reachable.unmarked_tags_setField`). `fields_independent` carries this
along a sequence of writes.
-/

set_option autoImplicit false

namespace IccProfile

namespace Profile

variable {source : Option Bytes} {p : Profile}

/-- A profile after fields were set one after the other. -/
def setFields (p : Profile) (writes : List (HeaderField × UInt32)) : Profile :=
  writes.foldl (fun q w => q.setField w.1 w.2) p

/-- The value that was last written to a field. -/
def lastWritten? (writes : List (HeaderField × UInt32)) (f : HeaderField) : Option UInt32 :=
  (writes.reverse.find? (·.1 = f)).map (·.2)

/-- The bytes of a profile's header, zeros without one. -/
def headerBytes (p : Profile) : Bytes := (p.header.getD HeaderBlock.zero).val

/-- A place in the device attributes, the ID or the reserved bytes at the end of a header. -/
def Untouched (i : Nat) : Prop := 56 ≤ i ∧ i < 64 ∨ 84 ≤ i ∧ i < headerSize

/-! ## One write -/

theorem header_setField (p : Profile) (f : HeaderField) (value : UInt32) :
    (p.setField f value).header = some ((p.header.getD HeaderBlock.zero).write f value) :=
  header_syncHeaderTag _

theorem headerBytes_setField (p : Profile) (f : HeaderField) (value : UInt32) :
    (p.setField f value).headerBytes = f.write p.headerBytes value := by
  rw [headerBytes, header_setField, Option.getD_some, HeaderBlock.val_write, headerBytes]

theorem field_eq_read (p : Profile) (f : HeaderField) : p.field f = f.read p.headerBytes := by
  unfold field headerBytes
  cases p.header with
  | none => exact (HeaderField.read_zero f).symm
  | some header => rfl

/-- A write is seen in its field and in no other. -/
theorem field_setField (p : Profile) (f : HeaderField) (value : UInt32) (k : HeaderField) :
    (p.setField f value).field k = if f = k then k.kept value else p.field k := by
  rw [field_eq_read, field_eq_read, headerBytes_setField]
  split
  · next hsame =>
      subst hsame
      exact HeaderField.read_write_self (HeaderBlock.headerSize_le _) value
  · next hother => exact HeaderField.read_write hother _ value

/-- No field holds a byte of the attributes, of the ID or of the reserved bytes. -/
theorem untouched_setField {i : Nat} (h : Untouched i) (p : Profile) (f : HeaderField)
    (value : UInt32) : (p.setField f value).headerBytes[i]? = p.headerBytes[i]? := by
  have hoffset : ¬ f.Covers i := by
    unfold Untouched at h
    cases f <;> simp only [HeaderField.Covers, HeaderField.offset, HeaderField.width] <;> omega
  rw [headerBytes_setField, HeaderField.getElem?_write hoffset]

/-- A write leaves the tags but for their preferred color module. -/
theorem Reachable.unmarked_tags_setField (h : Reachable source p) (f : HeaderField)
    (value : UInt32) : (p.setField f value).tags.map Tag.unmarked = p.tags.map Tag.unmarked := by
  cases hheader : p.header with
  | none => rw [h.tags_setField hheader f value]
  | some header => exact tags_setField_view hheader (fun _ => rfl) value

/-! ## A sequence of writes -/

section Writes

variable (writes : List (HeaderField × UInt32)) (w : HeaderField × UInt32)

theorem setFields_append (p : Profile) :
    p.setFields (writes ++ [w]) = (p.setFields writes).setField w.1 w.2 := by
  rw [setFields, List.foldl_append, List.foldl_cons, List.foldl_nil, setFields]

/-- The write at the end is the last one to its field. -/
theorem lastWritten?_append (k : HeaderField) :
    lastWritten? (writes ++ [w]) k = if w.1 = k then some w.2 else lastWritten? writes k := by
  rw [lastWritten?, List.reverse_append, List.reverse_singleton, List.singleton_append,
    List.find?_cons]
  by_cases hsame : w.1 = k
  · simp [hsame]
  · simp [hsame, lastWritten?]

end Writes

theorem Reachable.setFields (h : Reachable source p) (writes : List (HeaderField × UInt32)) :
    Reachable source (p.setFields writes) := by
  induction writes using List.reverseRecOn with
  | nil => exact h
  | append_singleton writes w ih =>
      rw [setFields_append]
      exact .serve (.setField w.1 w.2) trivial ih

/-- A field has what it keeps of the value that was last written to it, else its old value. -/
theorem field_setFields (p : Profile) (writes : List (HeaderField × UInt32)) (k : HeaderField) :
    (p.setFields writes).field k = ((lastWritten? writes k).map k.kept).getD (p.field k) := by
  -- the last write decides about its own field, the ones before it about all others
  induction writes using List.reverseRecOn with
  | nil => rfl
  | append_singleton writes w ih =>
      rw [setFields_append, field_setField, lastWritten?_append]
      split
      · rfl
      · exact ih

/-- There is a header after the first write. -/
theorem isSome_header_setFields (p : Profile) (writes : List (HeaderField × UInt32)) :
    (p.setFields writes).header.isSome = (p.header.isSome || !writes.isEmpty) := by
  induction writes using List.reverseRecOn with
  | nil => simp [setFields]
  | append_singleton writes w ih => simp [setFields_append, header_setField]

theorem untouched_setFields {i : Nat} (h : Untouched i) (p : Profile)
    (writes : List (HeaderField × UInt32)) :
    (p.setFields writes).headerBytes[i]? = p.headerBytes[i]? := by
  induction writes using List.reverseRecOn with
  | nil => rfl
  | append_singleton writes w ih => rw [setFields_append, untouched_setField h, ih]

theorem Reachable.unmarked_tags_setFields (h : Reachable source p)
    (writes : List (HeaderField × UInt32)) :
    (p.setFields writes).tags.map Tag.unmarked = p.tags.map Tag.unmarked := by
  induction writes using List.reverseRecOn with
  | nil => rfl
  | append_singleton writes w ih =>
      rw [setFields_append, (h.setFields writes).unmarked_tags_setField, ih]

/-- Header fields are independent registers. After any writes to a reachable profile each field has
the value that was last written to it, its low 16 bits in a part of the date, or the value that it
had before. Writing gives the profile a header, of zeros at first; the device attributes, the ID
and the reserved bytes at the end of the header stay as they are. The tags stay as they are in
all but their preferred color module, whether their list was read before the writes or not. -/
theorem fields_independent (h : Reachable source p) (writes : List (HeaderField × UInt32)) :
    (∀ f, (p.setFields writes).field f = ((lastWritten? writes f).map f.kept).getD (p.field f)) ∧
      (p.header = none → ∀ f, p.field f = 0) ∧
      (p.setFields writes).header.isSome = (p.header.isSome || !writes.isEmpty) ∧
      (∀ i, Untouched i → (p.setFields writes).headerBytes[i]? = p.headerBytes[i]?) ∧
      (p.setFields writes).tags.map Tag.unmarked = p.tags.map Tag.unmarked ∧
      (p.materialized.setFields writes).tags.map Tag.unmarked = p.tags.map Tag.unmarked := by
  have hread : Reachable source p.materialized := .serve .materialize trivial h
  refine ⟨field_setFields p writes, ?_, isSome_header_setFields p writes,
    fun i hi => untouched_setFields hi p writes, h.unmarked_tags_setFields writes,
    hread.unmarked_tags_setFields writes⟩
  intro hheader f
  rw [field, hheader]

/-- Two writes to one part of the date, more than it holds, with other fields between them. -/
def datedWrites : List (HeaderField × UInt32) :=
  [(.day, 0x12345), (.cmm, 0x6c636d73), (.day, 0x2001F), (.hours, 0x10000)]

theorem fields_independent_repeated :
    ∃ p, Reachable (some repeated) p ∧ p.tagList = none ∧
      (p.setFields datedWrites).field .day = 0x1F ∧ (p.setFields datedWrites).field .hours = 0 ∧
      (p.setFields datedWrites).field .cmm = 0x6c636d73 ∧
      (p.setFields datedWrites).field .size = 180 ∧
      (p.materialized.setFields datedWrites).tags.map Tag.unmarked = p.tags.map Tag.unmarked := by
  have hreachable : Reachable (some repeated) (fresh repeated accepted_repeated.headerSize_le) :=
    .ofBytes (ofBytes_of_accepted accepted_repeated)
  obtain ⟨hfield, -, -, -, -, htags⟩ := fields_independent hreachable datedWrites
  refine ⟨_, hreachable, rfl, ?_, ?_, ?_, ?_, htags⟩
  · rw [hfield]
    decide +kernel
  · rw [hfield]
    decide +kernel
  · rw [hfield]
    decide +kernel
  · rw [hfield]
    decide +kernel

end Profile

end IccProfile
