import IccProfile.Profile.Basic
import IccProfile.Proofs.Header.Parts
import IccProfile.Proofs.Identity

/-!
# Accepted containers

`Accepted data` names the four conditions under which a byte string is taken as a
profile: its length, its code, its declared length and the length of its tag table.
`ofBytesWith_ok_iff` says that reading succeeds exactly under them, when the version is
asked for, and that the result is the profile `fresh` with the bytes and their header.

Bytes apart from the words that decide play no role in this (`accepted_patch_iff`), and so a stored
ID plays none (`accepted_stamp_iff`).
-/

set_option autoImplicit false

namespace IccProfile

namespace Header

variable {data : Bytes} {header : Header}

/-- The parts of a header that reading a container looks at. -/
theorem of_ofBytes? (h : ofBytes? data = .ok header) :
    headerSize ≤ data.length ∧ Bytes.wordAt data 36 = Signature.magic ∧
      header.magic = Bytes.wordAt data 36 ∧ header.size = Bytes.wordAt data 0 ∧
      header.version.major = data.getD 8 0 := by
  unfold ofBytes? at h
  split at h
  · cases h
  · next hlength =>
    split at h
    · cases h
    · next hmagic =>
      obtain rfl := Except.ok.inj h
      exact ⟨Nat.not_lt.mp hlength, Decidable.not_not.mp hmagic, rfl, rfl, rfl⟩

theorem validate_ok_iff {length : Nat} :
    header.validate length = .ok () ↔
      header.magic = Signature.magic ∧ header.size.toNat ≤ length := by
  unfold validate
  by_cases hmagic : header.magic = Signature.magic
  · by_cases hsize : header.size.toNat ≤ length
    · simp [hmagic, hsize]
    · simp [hmagic, hsize, Nat.lt_of_not_le hsize]
  · simp [hmagic]

end Header

/-- The versions that flags ask for: any when they name none, else those that they name. -/
theorem LoadFlags.accepts_iff {flags : LoadFlags} {major : UInt8} :
    flags.accepts major = true ↔
      (flags.version2 = false ∧ flags.version4 = false) ∨
        (flags.version2 = true ∧ major = 2) ∨ (flags.version4 = true ∧ major = 4) := by
  simp only [LoadFlags.accepts, Bool.or_eq_true, Bool.and_eq_true, Bool.not_eq_true', beq_iff_eq,
    or_assoc]

namespace Profile

/-- What a byte string needs to be taken as a profile. -/
structure Accepted (data : Bytes) : Prop where
  minProfileSize_le : minProfileSize ≤ data.length
  magic_eq : Bytes.wordAt data 36 = Signature.magic
  size_le : (Bytes.wordAt data 0).toNat ≤ data.length
  table_le : declaredTagCount data * 12 + minProfileSize ≤ data.length

theorem Accepted.headerSize_le {data : Bytes} (h : Accepted data) : headerSize ≤ data.length :=
  Nat.le_trans (by decide) h.minProfileSize_le

/-- The header at the start of a byte string. -/
def leadingHeader (data : Bytes) (h : headerSize ≤ data.length) : HeaderBlock :=
  ⟨data.take headerSize, by rw [List.length_take, Nat.min_eq_left h]⟩

/-- The profile of a byte string as it is right after reading. -/
def fresh (data : Bytes) (h : headerSize ≤ data.length) : Profile :=
  { raw := some data, header := some (leadingHeader data h) }

/-- A success keeps its value when causes are converted. -/
theorem mapError_ok {α β γ : Type} (f : α → β) (a : γ) :
    (Except.ok a : Except α γ).mapError f = .ok a := rfl

/-- Reading succeeds exactly on accepted byte strings of a version that is asked for. -/
theorem ofBytesWith_ok_iff {flags : LoadFlags} {data : Bytes} {p : Profile} :
    ofBytesWith flags data = .ok p ↔
      ∃ h : Accepted data,
        flags.accepts (data.getD 8 0) = true ∧ p = fresh data h.headerSize_le := by
  unfold ofBytesWith
  simp only [bind, Except.bind, pure, Except.pure]
  constructor
  · intro h
    -- each check that was passed gives one of the conditions
    split at h
    · cases h
    · next hlength =>
      cases hheader : Header.ofBytes? data with
      | error error =>
          rw [hheader] at h
          cases h
      | ok header =>
          obtain ⟨hfit, hmagic, hmagicPart, hsizePart, hmajor⟩ := Header.of_ofBytes? hheader
          simp only [hheader, mapError_ok] at h
          cases hvalid : header.validate data.length with
          | error error =>
              rw [hvalid] at h
              cases h
          | ok checked =>
              simp only [hvalid, mapError_ok] at h
              have hsize := (Header.validate_ok_iff.mp hvalid).2
              split at h
              · cases h
              · next htable =>
                split at h
                · cases h
                · next hversion =>
                  split at h
                  · refine ⟨⟨Nat.not_lt.mp hlength, hmagic, ?_, Nat.not_lt.mp htable⟩, ?_, ?_⟩
                    · rwa [← hsizePart]
                    · rw [← hmajor]
                      simpa using hversion
                    · exact (Except.ok.inj h).symm
                  · cases h
  · rintro ⟨haccepted, hversion, rfl⟩
    obtain ⟨header, hheader⟩ := Header.exists_ofBytes? haccepted.headerSize_le haccepted.magic_eq
    obtain ⟨-, hmagic, hmagicPart, hsizePart, hmajor⟩ := Header.of_ofBytes? hheader
    have hvalid : header.validate data.length = .ok () :=
      Header.validate_ok_iff.mpr
        ⟨hmagicPart.trans hmagic, by rw [hsizePart]; exact haccepted.size_le⟩
    -- the checks are passed one after the other
    have hheaderFits : (data.take headerSize).length = headerSize :=
      (leadingHeader data haccepted.headerSize_le).property
    rw [if_neg (Nat.not_lt.mpr haccepted.minProfileSize_le), hheader]
    simp only [mapError_ok, hvalid]
    rw [if_neg (Nat.not_lt.mpr haccepted.table_le), if_neg (by rw [hmajor, hversion]; decide),
      dif_pos hheaderFits]
    rfl

/-- Every accepted byte string is read when any version will do. -/
theorem ofBytes_of_accepted {data : Bytes} (h : Accepted data) :
    ofBytes data = .ok (fresh data h.headerSize_le) :=
  ofBytesWith_ok_iff.mpr ⟨h, rfl, rfl⟩

/-! ## Overwriting -/

/-- The words that decide about a container: its declared length, its code and its tag count. -/
def decisiveWords : List Nat := [0, 36, headerSize]

/-- Whether a byte string is accepted does not depend on the bytes apart from these words. -/
theorem accepted_patch_iff {data new : Bytes} {offset : Nat}
    (hapart : ∀ word ∈ decisiveWords, word + 4 ≤ offset ∨ offset + new.length ≤ word) :
    Accepted (Bytes.patch data offset new) ↔ Accepted data := by
  have hword (word : Nat) (h : word ∈ decisiveWords) :
      Bytes.wordAt (Bytes.patch data offset new) word = Bytes.wordAt data word :=
    Bytes.wordAt_patch (hapart word h)
  have hsize := hword 0 (by decide)
  have hmagic := hword 36 (by decide)
  have hcount : declaredTagCount (Bytes.patch data offset new) = declaredTagCount data := by
    rw [declaredTagCount, hword headerSize (by decide), declaredTagCount]
  constructor
  · rintro ⟨hshort, hcode, hdeclared, htable⟩
    rw [Bytes.length_patch] at hshort hdeclared htable
    exact ⟨hshort, hmagic ▸ hcode, hsize ▸ hdeclared, hcount ▸ htable⟩
  · rintro ⟨hshort, hcode, hdeclared, htable⟩
    refine ⟨?_, hmagic.trans hcode, ?_, ?_⟩
    · rwa [Bytes.length_patch]
    · rwa [Bytes.length_patch, hsize]
    · rwa [Bytes.length_patch, hcount]

/-- Whether a byte string is accepted does not depend on its ID. -/
theorem accepted_stamp_iff (id : ProfileId) {data : Bytes} :
    Accepted (id.stamp data) ↔ Accepted data :=
  accepted_patch_iff (by rw [id.length_eq]; decide)

end Profile

end IccProfile
