import IccProfile.Proofs.Profile.Repair
import IccProfile.Proofs.Profile.Identity

/-!
# Profiles as they were read

`Holds p data` says that a profile stands for a byte string and was not changed. Such a
profile is written as these bytes (`Holds.toBytes_eq`), and two of them that stand for the
same bytes agree in their version, their identity and the outcome for their stored ID
(`Holds.agree`), whatever each of them remembers. Storing the identity gives a profile that
stands for the stamped bytes (`Holds.repairId`).
-/

set_option autoImplicit false

namespace IccProfile

namespace IdCheck

theorem isValid_iff {check : IdCheck} : check.isValid = true ↔ check = .valid := by
  cases check with
  | valid => exact ⟨fun _ => rfl, fun _ => rfl⟩
  | missing => exact ⟨(nomatch ·), (nomatch ·)⟩
  | mismatch embedded computed => exact ⟨(nomatch ·), (nomatch ·)⟩

theorem compare_eq_valid_iff {embedded? : Option ProfileId} {computed : ProfileId} :
    compare embedded? computed = .valid ↔ embedded? = some computed := by
  cases embedded? with
  | none => exact ⟨(nomatch ·), (nomatch ·)⟩
  | some embedded =>
      by_cases heq : embedded = computed
      · rw [heq, compare, if_pos rfl]
        exact ⟨fun _ => rfl, fun _ => rfl⟩
      · rw [compare, if_neg heq, Option.some.injEq]
        exact ⟨(nomatch ·), (absurd · heq)⟩

end IdCheck

namespace Profile

/-- A profile stands for a byte string and was not changed. -/
structure Holds (p : Profile) (data : Bytes) : Prop where
  consistent : ∃ source, Consistent source p
  raw_eq : p.raw = some data
  modified_eq : p.modified = false

variable {p q : Profile} {data : Bytes}

theorem holds_fresh (h : Accepted data) : (fresh data h.headerSize_le).Holds data :=
  ⟨⟨some data, consistent_fresh h⟩, rfl, rfl⟩

namespace Holds

theorem unchangedBytes?_eq (h : p.Holds data) : p.unchangedBytes? = some data :=
  unchangedBytes?_eq_some.mpr ⟨h.modified_eq, h.raw_eq⟩

theorem accepted (h : p.Holds data) : Accepted data := by
  obtain ⟨source, hp⟩ := h.consistent
  exact hp.raw_accepted h.raw_eq

/-- An unchanged profile is written as its bytes. -/
theorem toBytes_eq (h : p.Holds data) : p.toBytes = data :=
  toBytes_of_unchanged h.unchangedBytes?_eq

/-- Its identity is computed from them. -/
theorem computedId_eq (h : p.Holds data) : p.computedId = ProfileId.ofContent data :=
  computedId_of_unchanged h.unchangedBytes?_eq

/-- Its header is the one they start with. -/
theorem header_eq (h : p.Holds data) :
    p.header = some (leadingHeader data h.accepted.headerSize_le) := by
  obtain ⟨source, hp⟩ := h.consistent
  obtain ⟨header, hheader, hval⟩ := hp.header_of_raw h.modified_eq h.raw_eq
  rw [hheader, Option.some.injEq]
  exact Subtype.ext hval

theorem field_eq (h : p.Holds data) (f : HeaderField) :
    p.field f = f.read (data.take headerSize) := by
  rw [field, h.header_eq]
  rfl

theorem embeddedId?_eq (h : p.Holds data) :
    p.embeddedId? = ProfileId.embedded? (data.take headerSize) := by
  rw [embeddedId?, h.header_eq]
  rfl

/-- Its major version is the ninth of them. -/
theorem major_eq (h : p.Holds data) : p.version.major = data.getD 8 0 := by
  have hlength : headerSize ≤ (data.take headerSize).length := by
    rw [List.length_take, Nat.min_eq_left h.accepted.headerSize_le]
  rw [version, h.field_eq, HeaderField.major_read_version hlength, List.getD_eq_getElem?_getD,
    List.getD_eq_getElem?_getD, List.getElem?_take_of_lt (by decide)]

/-- Its identity does not depend on what it remembers. -/
theorem id_eq (h : p.Holds data) :
    p.id = (ProfileId.embedded? (data.take headerSize)).getD (ProfileId.ofContent data) := by
  obtain ⟨source, hp⟩ := h.consistent
  rw [hp.id_eq, freshId, h.embeddedId?_eq, h.computedId_eq]
  cases ProfileId.embedded? (data.take headerSize) with
  | none => rfl
  | some id =>
      rw [h.modified_eq]
      rfl

/-- Neither does the outcome for its stored ID. -/
theorem checkId_eq (h : p.Holds data) :
    p.checkId =
      IdCheck.compare (ProfileId.embedded? (data.take headerSize)) (ProfileId.ofContent data) := by
  rw [checkId, h.embeddedId?_eq, h.computedId_eq]

/-- Unchanged profiles of the same bytes have the same version, identity and outcome for their
stored ID. -/
theorem agree (h : p.Holds data) (k : q.Holds data) :
    q.version = p.version ∧ q.id = p.id ∧ q.checkId = p.checkId := by
  refine ⟨?_, ?_, ?_⟩
  · rw [version, version, h.field_eq, k.field_eq]
  · rw [h.id_eq, k.id_eq]
  · rw [h.checkId_eq, k.checkId_eq]

/-- What carries a file name stands for the same bytes. -/
theorem named (h : p.Holds data) (name : Option Path) :
    Holds { p with fileName := name } data := by
  obtain ⟨source, hp⟩ := h.consistent
  exact ⟨⟨source, hp.move (.annotate p name p.metaFilter)⟩, h.raw_eq, h.modified_eq⟩

/-- With its identity stored a profile stands for the stamped bytes. -/
theorem repairId (h : p.Holds data) :
    p.repairId.Holds ((ProfileId.ofContent data).stamp data) := by
  obtain ⟨source, hp⟩ := h.consistent
  refine ⟨⟨source, hp.repairId⟩, ?_, ?_⟩
  · rw [raw_repairId, h.raw_eq, h.computedId_eq, Option.map_some]
  · rw [modified_repairId, h.modified_eq]

/-- The stored identity is valid, unless it stands for none. -/
theorem checkId_repairId (h : p.Holds data) (hzero : (ProfileId.ofContent data).isZero = false) :
    p.repairId.checkId = .valid := by
  obtain ⟨source, hp⟩ := h.consistent
  apply hp.checkId_repairId
  · rw [h.header_eq, Option.isSome_some]
  · rwa [h.computedId_eq]

end Holds

end Profile

end IccProfile
