import IccProfile.Matching.Rank
import IccProfile.Profile.Embedding
import IccProfile.Profile.Written

/-!
# Patterns and choices

A profile can serve as a pattern for others. The first rule that applies decides: a
device is to rank above zero, a file name is to be contained in that of the other
profile, or all header fields that are not zero are to be equal. For a device, the
profile that ranks highest is chosen.
-/

set_option autoImplicit false

namespace IccProfile.Matching

/-- The rank of a profile for a device. -/
def rankProfile (device : Device) (profile : Profile) (policy : RankPolicy) : Int32 :=
  rank device.properties profile.deviceProperties device.rankMap policy false

/-- A file name pattern without its stars. -/
def withoutStars (name : String) : List Char := name.toList.filter (· ≠ '*')

/-- Whether every header field of a pattern that is not zero has the same value in a profile. -/
def fieldsMatch (pattern candidate : Profile) : Bool :=
  HeaderField.all.all fun f => pattern.field f = 0 || pattern.field f = candidate.field f

/-- Whether a profile fits a device: it ranks above zero, with one point for each property when
the device has no rank map. A star in the file name lets values match in part. -/
def deviceMatches (filter : Device) (name? : Option Path) (candidate : Profile)
    (policy : RankPolicy) : Bool :=
  let subString := name?.any fun name => name.text.toList.contains '*'
  let map := filter.rankMap.getD (RankMap.counting filter.properties.keys)
  0 < rank filter.properties candidate.deviceProperties (some map) policy subString

/-- Whether a profile fits a pattern. -/
def patternMatches (pattern candidate : Profile) (policy : RankPolicy) : Bool :=
  match pattern.metaFilter, pattern.fileName with
  | some filter, name? => deviceMatches filter name? candidate policy
  | none, some name =>
    candidate.fileName.any fun file => Text.contains file.text.toList (withoutStars name.text)
  | none, none => fieldsMatch pattern candidate

/-- A profile after it was compared with a pattern, which reads its tag list when the pattern has
a device. -/
def afterMatching (pattern candidate : Profile) : Profile :=
  match pattern.metaFilter with
  | some _ => candidate.materialized
  | none => candidate

/-- The first of the items that rank highest, with its rank. -/
def best? {α : Type} (rankOf : α → Int32) (items : List α) : Option (Int32 × α) :=
  items.foldl
    (fun best item =>
      match best with
      | none => some (rankOf item, item)
      | some (top, found) =>
        if rankOf item > top then some (rankOf item, item) else some (top, found))
    none

/-- The item that ranks highest, when its rank is above zero, else the default. -/
def select? {α : Type} (rankOf : α → Int32) (items : List α) (default : Option α) : Option α :=
  match best? rankOf items with
  | some (top, item) => if top > 0 then some item else default
  | none => default

/-- Items with their ranks, the highest first, equal ones in their order. -/
def ranked {α : Type} (rankOf : α → Int32) (items : List α) : List (Int32 × α) :=
  (items.map fun item => (rankOf item, item)).mergeSort fun a b => a.1 ≥ b.1

end IccProfile.Matching
