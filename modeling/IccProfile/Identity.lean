import IccProfile.Header.Field
import IccProfile.Md5

/-!
# The identity of content

The identity of a byte string is its digest with the flags, the rendering intent
and the ID of the header set to zero, so it does not change when it is stored. A
stored ID is compared with it by `IdCheck.ofBytes`.
-/

set_option autoImplicit false

namespace IccProfile

/-- The bytes that an identity is computed from: those of the profile, with zeros for the flags,
the rendering intent and the ID. -/
def identifiedBytes (data : Bytes) : Bytes :=
  if data.length < headerSize then data
  else
    ProfileId.zero.stamp
      (HeaderField.intent.write (HeaderField.flags.write data 0) 0)

/-- The identity of a byte string. -/
def ProfileId.ofContent (data : Bytes) : ProfileId := Md5.digest (identifiedBytes data)

/-- A header with a new ID. -/
def ProfileId.stampHeader (id : ProfileId) (header : HeaderBlock) : HeaderBlock :=
  ⟨id.stamp header.val, by simp [header.property]⟩

/-- A stored ID compared with the computed one. -/
inductive IdCheck
  | valid
  | missing
  | mismatch (embedded computed : ProfileId)
deriving DecidableEq, Inhabited

namespace IdCheck

/-- The outcome for a stored ID and the computed one. -/
def compare (embedded? : Option ProfileId) (computed : ProfileId) : IdCheck :=
  match embedded? with
  | none => .missing
  | some embedded => if embedded = computed then .valid else .mismatch embedded computed

/-- The outcome for a byte string. -/
def ofBytes (data : Bytes) : IdCheck :=
  compare (ProfileId.embedded? data) (ProfileId.ofContent data)

/-- Whether the stored ID is the computed one. -/
def isValid : IdCheck → Bool
  | .valid => true
  | _ => false

end IdCheck

end IccProfile
