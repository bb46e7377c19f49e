import IccProfile.Profile.Request
import IccProfile.Proofs.Profile.Consistent

/-!
# Storing the identity of a profile

`repairId` writes the computed identity into the header, the raw bytes and the pseudo tag.
In the written form it sets the ID and nothing else (`toBytes_repairId`), and
what is written anew holds the identity already (`stamp_toBytes_of_rewritten`). So the
identity that was stored is the one found afterwards, the stored ID is valid, and storing
it once more changes nothing (`StoresId`, `Consistent.storesId_repairId`).
-/

set_option autoImplicit false

namespace IccProfile.Profile

variable {source : Option Bytes} {p : Profile}

/-- The written form holds a header. -/
theorem Consistent.headerSize_le_toBytes (h : Consistent source p) :
    headerSize ≤ p.toBytes.length := by
  cases hunchanged : p.unchangedBytes? with
  | some data =>
      rw [toBytes_of_unchanged hunchanged]
      exact (h.raw_accepted (unchangedBytes?_eq_some.mp hunchanged).2).headerSize_le
  | none =>
      rw [toBytes_of_rewritten hunchanged, length_container]
      exact Nat.le_trans (by decide) (Nat.le_trans (Nat.le_add_right minProfileSize _)
        (Nat.le_add_right (tableEnd _) _))

/-- What is written anew holds the computed identity. -/
theorem stamp_toBytes_of_rewritten (h : p.unchangedBytes? = none) :
    p.computedId.stamp p.toBytes = p.toBytes := by
  rw [toBytes_of_rewritten h, stamp_container, ProfileId.stampHeader_stampHeader]

/-- Storing the identity sets the ID in the written form. -/
theorem toBytes_repairId (p : Profile) :
    p.repairId.toBytes = p.computedId.stamp p.toBytes := by
  have hbytes := unchangedBytes?_repairId p
  cases hunchanged : p.unchangedBytes? with
  | some data =>
      rw [hunchanged, Option.map_some] at hbytes
      rw [toBytes_of_unchanged hbytes, toBytes_of_unchanged hunchanged]
  | none =>
      -- the same header and tags are written, with the same identity
      rw [hunchanged, Option.map_none] at hbytes
      rw [stamp_toBytes_of_rewritten hunchanged, toBytes, toBytes, hbytes, hunchanged,
        serialize_repairId hunchanged]

/-- The identity that was stored is remembered. -/
theorem id_repairId (p : Profile) : p.repairId.id = p.computedId := rfl

/-- The stored identity is valid, unless it stands for none. -/
theorem Consistent.checkId_repairId (h : Consistent source p) (hheader : p.header.isSome = true)
    (hzero : p.computedId.isZero = false) : p.repairId.checkId = .valid := by
  obtain ⟨header, hsome⟩ := Option.isSome_iff_exists.mp hheader
  have hembedded : p.repairId.embeddedId? = some p.computedId := by
    rw [embeddedId?_repairId, hsome, hzero]
    rfl
  rw [checkId, hembedded, computedId_repairId h]
  exact if_pos rfl

/-- Storing the identity leaves the header fields. -/
theorem field_repairId (p : Profile) (f : HeaderField) : p.repairId.field f = p.field f := by
  rw [field, field, header_repairId]
  cases p.header with
  | none => rfl
  | some header => exact HeaderField.read_stamp f p.computedId header.val

/-- Storing the identity leaves the version. -/
theorem version_repairId (p : Profile) : p.repairId.version = p.version :=
  congrArg Version.ofWord (field_repairId p .version)

/-- Storing the identity leaves the file name. -/
theorem fileName_repairId (p : Profile) : p.repairId.fileName = p.fileName := by
  rw [repairId_eq, syncHeaderTag_eq, stamped, afterWriting_eq]

/-- A profile came from another by storing its identity, and by nothing else. -/
structure StoresId (p q : Profile) : Prop where
  computedId_eq : q.computedId = p.computedId
  id_eq : q.id = p.computedId
  checkId_eq : p.computedId.isZero = false → q.checkId = .valid
  slice?_eq : Bytes.slice? q.toBytes idOffset 16 = some p.computedId.bytes
  modified_eq : q.modified = p.modified
  alike : ProfileId.AlikeOutside p.toBytes q.toBytes
  toBytes_eq : p.modified = true → q.toBytes = p.toBytes
  /-- Storing it once more gives the same identity and the same bytes. -/
  again : ∃ r, q.serve .repairId = (.id p.computedId, r) ∧ r.toBytes = q.toBytes

/-- The profile that has its identity stored differs from the profile in the ID only. -/
theorem Consistent.storesId_repairId (h : Consistent source p) (hheader : p.header.isSome = true) :
    StoresId p p.repairId where
  computedId_eq := computedId_repairId h
  id_eq := id_repairId p
  checkId_eq := h.checkId_repairId hheader
  slice?_eq := by
    rw [toBytes_repairId]
    exact ProfileId.slice?_stamp _ h.headerSize_le_toBytes
  modified_eq := modified_repairId p
  alike := by
    rw [toBytes_repairId]
    exact ProfileId.alikeOutside_stamp _ _
  toBytes_eq := by
    intro hmodified
    have hrewritten : p.unchangedBytes? = none := if_pos hmodified
    rw [toBytes_repairId, stamp_toBytes_of_rewritten hrewritten]
  again := by
    refine ⟨p.repairId.repairId, ?_, ?_⟩
    · rw [serve, computedId_repairId h]
    -- the same ID is stored over itself
    · rw [toBytes_repairId, computedId_repairId h, toBytes_repairId, ProfileId.stamp_stamp]

end IccProfile.Profile
