import IccProfile.Device.Basic
import IccProfile.Matching.Value
import IccProfile.Options

/-!
# Ranks

The rank of a set of properties for a device is the sum of the points that the rank
map gives for each property of the device, less a penalty for profiles that were made
without measuring. Sums stay within the bounds of 32 bit integers.
-/

set_option autoImplicit false

namespace IccProfile.Matching

/-- The 32 bit integer nearest to an integer. -/
def saturate (n : Int) : Int32 := Int32.ofInt (max (-2147483648) (min 2147483647 n))

/-- A sum within the bounds of 32 bit integers. -/
def addSaturating (a b : Int32) : Int32 := saturate (a.toInt + b.toInt)

/-- A difference within the bounds of 32 bit integers. -/
def subSaturating (a b : Int32) : Int32 := saturate (a.toInt - b.toInt)

/-- The points of a device property: those of its entry in the map for a value that matches, one
that does not, or none. -/
def points (entry : RankEntry) (value : String) (found? : Option String) (delta : Float)
    (subString : Bool) : Int32 :=
  match found? with
  | some found =>
    if valueMatches value found delta subString then entry.onMatch else entry.onMismatch
  | none => entry.onMissing

/-- The rank after a further device property. -/
def addProperty (candidate : Properties) (map? : Option RankMap) (policy : RankPolicy)
    (subString : Bool) (rank : Int32) (property : String × String) : Int32 :=
  match map?.bind (·.get? property.1) with
  | none => rank
  | some entry =>
    addSaturating rank
      (points entry property.2 (candidate.lookup property.1) policy.delta subString)

/-- What is taken from the rank of properties that were made without measuring. -/
def penalty? (candidate : Properties) (policy : RankPolicy) : Option Int32 :=
  if candidate.isAutoGenerated then
    some (if candidate.contains "serial" then policy.serialPenalty else policy.penalty)
  else none

/-- The rank of properties for those of a device. -/
def rank (device candidate : Properties) (map? : Option RankMap) (policy : RankPolicy)
    (subString : Bool) : Int32 :=
  let sum := device.entries.foldl (addProperty candidate map? policy subString) 0
  match penalty? candidate policy with
  | some penalty => subSaturating sum penalty
  | none => sum

end IccProfile.Matching
