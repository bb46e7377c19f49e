import IccProfile.Bytes

/-!
# Profile versions
-/

set_option autoImplicit false

namespace IccProfile

/-- The version of the profile format: one byte for the major number, half a byte each for
the other two. -/
structure Version where
  major : UInt8
  minor : UInt8
  patch : UInt8
deriving DecidableEq, Inhabited

namespace Version

/-- The version written by a byte and a pair of half bytes. -/
def ofBytes (major minorPatch : UInt8) : Version :=
  ⟨major, minorPatch / 16, minorPatch % 16⟩

/-- The byte that holds the minor number and the patch number. -/
def minorPatch (v : Version) : UInt8 := v.minor * 16 + v.patch % 16

/-- The version field of the header, its last two bytes zero. -/
def word (v : Version) : UInt32 :=
  UInt32.ofNat (Bytes.toNat [v.major, v.minorPatch, 0, 0])

/-- The version held by a version field. -/
def ofWord (w : UInt32) : Version :=
  .ofBytes (UInt8.ofNat (w.toNat / 0x1000000)) (UInt8.ofNat (w.toNat / 0x10000))

/-- Whether a version is not below the given one. -/
def atLeast (v : Version) (major minor : UInt8) : Bool :=
  v.major > major || (v.major == major && v.minor >= minor)

/-- Whether the major number is 4. -/
def isV4 (v : Version) : Bool := v.major == 4

/-- Whether the major number is 2. -/
def isV2 (v : Version) : Bool := v.major == 2

/-- The version written into a profile that has none. -/
def v43 : Version := ⟨4, 3, 0⟩

end Version

end IccProfile
