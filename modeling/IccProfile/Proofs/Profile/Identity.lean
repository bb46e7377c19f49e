import IccProfile.Proofs.Profile.Reload

/-!
# The identity of a profile and of its written form

A profile finds its identity in one of three ways: it remembers it, it trusts the ID in
its header, or it computes it from its content. `identity_survives` says that they agree
in every reachable profile: forgetting the remembered identity changes no answer, and
the profile that is read from the written form has the same identities. The ID that is
written into a changed profile is valid.
-/

set_option autoImplicit false

namespace IccProfile.Profile

variable {source : Option Bytes} {p : Profile}

/-- The identity of a consistent profile is the one found without looking at the remembered
one. -/
theorem Consistent.id_eq (h : Consistent source p) : p.id = p.freshId := by
  unfold id
  cases hknown : p.knownId with
  | none => rfl
  | some id => exact h.knownId_eq id hknown

/-- A changed profile computes its identity. -/
theorem freshId_of_modified (h : p.modified = true) : p.freshId = p.computedId := by
  unfold freshId
  cases p.embeddedId? with
  | none => rfl
  | some id => exact if_pos h

/-- So does one that is written anew, changed or not. -/
theorem Consistent.freshId_of_rewritten (h : Consistent source p)
    (hrewritten : p.unchangedBytes? = none) : p.freshId = p.computedId := by
  cases hmodified : p.modified with
  | true => exact freshId_of_modified hmodified
  | false =>
      -- without raw bytes an unchanged profile has no header that could hold an ID
      have hraw : p.raw = none := by
        rwa [unchangedBytes?, hmodified] at hrewritten
      rw [freshId, embeddedId?, h.header_of_none hmodified hraw]
      rfl

section Fresh

variable {data : Bytes}

/-- A profile that was just read computes its identity from the bytes. -/
theorem computedId_fresh (h : headerSize ≤ data.length) :
    (fresh data h).computedId = ProfileId.ofContent data := rfl

/-- It trusts the ID in its header, if there is one. -/
theorem id_fresh (h : headerSize ≤ data.length) :
    (fresh data h).id =
      (ProfileId.embedded? (data.take headerSize)).getD (ProfileId.ofContent data) := by
  have hembedded : (fresh data h).embeddedId? = ProfileId.embedded? (data.take headerSize) := rfl
  have hid : (fresh data h).id = (fresh data h).freshId := rfl
  rw [hid, freshId, hembedded]
  cases ProfileId.embedded? (data.take headerSize) with
  | none => rfl
  | some id => rfl

end Fresh

/-- The content of the written form is that of the profile, its ID left out. -/
theorem ofContent_toBytes (p : Profile) : ProfileId.ofContent p.toBytes = p.computedId := by
  cases hunchanged : p.unchangedBytes? with
  | some data => rw [toBytes_of_unchanged hunchanged, computedId_of_unchanged hunchanged]
  | none =>
      have hfit : headerSize ≤ p.serialize.length := by
        rw [serialize_eq, length_container, tableEnd, headerSize, minProfileSize]
        omega
      rw [toBytes_of_rewritten hunchanged, ← stamp_container, ← serialize_eq,
        ProfileId.ofContent_stamp _ hfit, computedId_of_rewritten hunchanged]

/-- The ID of what is written anew is the computed one, unless it stands for none. -/
theorem embedded?_toBytes (h : p.unchangedBytes? = none) :
    ProfileId.embedded? (p.toBytes.take headerSize) =
      if p.computedId.isZero then none else some p.computedId := by
  rw [toBytes_of_rewritten h, take_container, HeaderBlock.val_stampHeader,
    ProfileId.embedded?_stamp _ (HeaderBlock.headerSize_le _)]

/-- The profile read from the written form has the identity of the profile. -/
theorem Consistent.id_reloaded (h : Consistent source p) (hfit : headerSize ≤ p.toBytes.length) :
    (fresh p.toBytes hfit).id = p.id := by
  rw [id_fresh, ofContent_toBytes, h.id_eq]
  cases hunchanged : p.unchangedBytes? with
  | none =>
      -- the written ID is the computed one, or there is none
      rw [embedded?_toBytes hunchanged, h.freshId_of_rewritten hunchanged]
      split <;> rfl
  | some data =>
      obtain ⟨hmodified, hraw⟩ := unchangedBytes?_eq_some.mp hunchanged
      -- the header that is read again is the header of the profile
      obtain ⟨header, hsome, hval⟩ := h.header_of_raw hmodified hraw
      rw [freshId, embeddedId?, hsome, Option.bind_some, hval, toBytes_of_unchanged hunchanged]
      cases ProfileId.embedded? (data.take headerSize) with
      | none => rfl
      | some id =>
          rw [Option.getD_some]
          exact (if_neg (by rw [hmodified]; decide)).symm

/-- The identity of a reachable profile is the one found with nothing remembered, and it is that
of the profile read from the written form, also when it is computed. The written form of a
changed profile carries a valid ID, unless the identity is the one that stands for none. -/
theorem identity_survives (h : Reachable source p) :
    p.id = ({ p with knownId := none } : Profile).id ∧
      (p.toBytes.length < UInt32.size →
        ∃ q, ofBytes p.toBytes = .ok q ∧ q.id = p.id ∧ q.computedId = p.computedId ∧
          (p.compareIds q).1 = true ∧
          (p.modified = true → p.computedId.isZero = false → q.checkId = .valid)) := by
  have hp := h.consistent
  refine ⟨hp.id_eq, ?_⟩
  intro hlength
  have haccepted := hp.accepted_toBytes hlength
  have hid := hp.id_reloaded haccepted.headerSize_le
  have hcomputed : (fresh p.toBytes haccepted.headerSize_le).computedId = p.computedId :=
    (computedId_fresh _).trans (ofContent_toBytes p)
  refine ⟨_, ofBytes_of_accepted haccepted, hid, hcomputed, decide_eq_true hid.symm, ?_⟩
  intro hmodified hzero
  have hembedded : (fresh p.toBytes haccepted.headerSize_le).embeddedId? = some p.computedId := by
    have hstored := embedded?_toBytes (unchangedBytes?_of_modified hmodified)
    rw [hzero] at hstored
    exact hstored
  rw [checkId, hembedded, hcomputed]
  exact if_pos rfl

/-- A pattern with its ID stored and remembered. -/
def recalled : Profile := ((ofField .colorSpace 0x52474220).serve .repairId).2

theorem identity_survives_recalled :
    Reachable none recalled ∧ recalled.knownId.isSome = true ∧
      ∃ q, ofBytes recalled.toBytes = .ok q ∧ q.id = recalled.id ∧ q.checkId = .valid := by
  have hreachable : Reachable none recalled := .serve _ trivial (.ofField ..)
  have hmodified : recalled.modified = true := modified_repairId _
  have hlength : recalled.toBytes.length < UInt32.size := by
    rw [length_toBytes_of_rewritten (unchangedBytes?_of_modified hmodified)]
    decide +kernel
  have hzero : recalled.computedId.isZero = false := by decide +kernel
  obtain ⟨q, hq, hid, -, -, hvalid⟩ := (identity_survives hreachable).2 hlength
  exact ⟨hreachable, rfl, q, hq, hid, hvalid hmodified hzero⟩

end IccProfile.Profile
