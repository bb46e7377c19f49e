import IccProfile.Proofs.Matching.Sum
import Mathlib.Data.List.Find

/-!
# Keys behind a path

Keys without a slash are found behind a path as they are found alone (`lookup_under`), so a
candidate whose keys were put behind a path earns the same points. The flags of profiles that
were made without measuring are only found under their exact names (`isAutoGenerated_under`).
`rank_under` puts this together: behind a path a candidate ranks as it does alone, but for the
penalty, which it escapes.
-/

set_option autoImplicit false

namespace IccProfile

namespace Properties

/-- The properties with a path in front of every key. -/
def under (path : String) (p : Properties) : Properties :=
  ⟨p.entries.map fun e => (path ++ e.1, e.2)⟩

/-- No key has a slash. -/
def Plain (p : Properties) : Prop := ∀ key ∈ p.keys, '/' ∉ key.toList

instance (p : Properties) : Decidable p.Plain := List.decidableBAll _ _

variable {p : Properties} {path key name : String}

/-- What stands behind the last slash is determined. -/
theorem eq_of_append_slash {before after xs ys : List Char} (hxs : '/' ∉ xs) (hys : '/' ∉ ys)
    (h : before ++ '/' :: xs = after ++ '/' :: ys) : xs = ys := by
  rcases List.append_eq_append_iff.mp h with ⟨more, -, hrest⟩ | ⟨more, -, hrest⟩
  · cases more with
    | nil => exact (List.cons.inj hrest).2
    | cons c more =>
        have hmem : '/' ∈ xs := by
          rw [(List.cons.inj hrest).2]
          exact List.mem_append_right _ List.mem_cons_self
        exact absurd hmem hxs
  · cases more with
    | nil => exact (List.cons.inj hrest).2.symm
    | cons c more =>
        have hmem : '/' ∈ ys := by
          rw [(List.cons.inj hrest).2]
          exact List.mem_append_right _ List.mem_cons_self
        exact absurd hmem hys

section Path

variable (hpath : ∃ head, path = head ++ "/")
include hpath

/-- A name behind a path ends in a key when it is the key. -/
theorem endsInKey_under (hkey : '/' ∉ key.toList) (hname : '/' ∉ name.toList) :
    endsInKey key (path ++ name) = decide (name = key) := by
  obtain ⟨head, rfl⟩ := hpath
  rw [Bool.eq_iff_iff, endsInKey_iff, decide_eq_true_eq]
  constructor
  · rintro ⟨other, heq⟩
    have hchars : head.toList ++ '/' :: name.toList = other.toList ++ '/' :: key.toList := by
      simpa using congrArg String.toList heq
    exact String.toList_inj.mp (eq_of_append_slash hname hkey hchars)
  · rintro rfl
    exact ⟨head, rfl⟩

/-- A key without a slash is no key behind a path. -/
theorem get?_under (hkey : '/' ∉ key.toList) (p : Properties) : (p.under path).get? key = none := by
  obtain ⟨head, rfl⟩ := hpath
  rw [get?, Option.map_eq_none_iff, List.find?_eq_none]
  intro e he heq
  obtain ⟨property, -, rfl⟩ := List.mem_map.mp he
  have hsame : head ++ "/" ++ property.1 = key := of_decide_eq_true heq
  have hslash : '/' ∈ (head ++ "/" ++ property.1).toList := by simp
  exact hkey (hsame ▸ hslash)

/-- A key is found behind a path as it is found alone. -/
theorem lookup_under (hp : p.Plain) (hkey : '/' ∉ key.toList) :
    (p.under path).lookup key = p.lookup key := by
  -- alone no key has the slash in front of a name that is looked for
  have halone : (p.entries.find? fun e => endsInKey key e.1) = none := by
    rw [List.find?_eq_none]
    intro e he hend
    obtain ⟨head, hname⟩ := endsInKey_iff.mp hend
    exact hp e.1 (List.mem_map_of_mem he) (by simp [hname])
  have hbehind : ∀ e ∈ p.entries, endsInKey key (path ++ e.1) = decide (e.1 = key) :=
    fun e he => endsInKey_under hpath hkey (hp e.1 (List.mem_map_of_mem he))
  rw [lookup, lookup, get?_under hpath hkey, halone, Option.map_none, Option.or_none,
    Option.none_or, under, List.find?_map, Option.map_map, get?]
  exact congrArg (Option.map _) (List.find?_congr hbehind)

/-- No flag is found behind a path. -/
theorem isAutoGenerated_under (p : Properties) : (p.under path).isAutoGenerated = false := by
  rw [isAutoGenerated, List.any_eq_false]
  intro flag hflag
  have hslash : '/' ∉ flag.toList := by
    revert flag
    decide
  rw [get?_under hpath hslash]
  simp

end Path

end Properties

namespace Matching

section Rank

variable {device candidate other : Properties} {path : String} (map? : Option RankMap)
  (policy : RankPolicy) (subString : Bool)

/-- Candidates in which the keys of a device are found alike earn the same points. -/
theorem awarded_congr (h : ∀ key ∈ device.keys, other.lookup key = candidate.lookup key) :
    awarded device other map? policy subString =
      awarded device candidate map? policy subString := by
  refine List.filterMap_congr fun property hproperty => ?_
  rw [earned?, earned?, h property.1 (List.mem_map_of_mem hproperty)]

/-- Behind a path a candidate ranks as it does alone, but for the penalty: that is taken from its
rank alone only. -/
theorem rank_under (hpath : ∃ head, path = head ++ "/") (hdevice : device.Plain)
    (hcandidate : candidate.Plain) :
    rank device candidate map? policy subString =
        subSaturating (rank device (candidate.under path) map? policy subString)
          (penalty candidate policy) ∧
      (candidate.isAutoGenerated = false →
        rank device (candidate.under path) map? policy subString =
          rank device candidate map? policy subString) := by
  have hawarded : awarded device (candidate.under path) map? policy subString =
      awarded device candidate map? policy subString :=
    awarded_congr map? policy subString fun key hkey =>
      Properties.lookup_under hpath hcandidate (hdevice key hkey)
  have hbehind : rank device (candidate.under path) map? policy subString =
      (awarded device candidate map? policy subString).foldl addSaturating 0 := by
    rw [rank_eq_foldl, penalty_of_not_isAutoGenerated (Properties.isAutoGenerated_under hpath _),
      subSaturating_zero, hawarded]
  rw [hbehind, rank_eq_foldl]
  refine ⟨rfl, ?_⟩
  intro hauto
  rw [penalty_of_not_isAutoGenerated hauto, subSaturating_zero]

end Rank

/-- A device and its model. -/
def booth : Properties := ⟨[("model", "X1"), ("serial", "7")]⟩

/-- A profile for the model. -/
def boothProfile : Properties := ⟨[("model", "X1"), ("serial", "8")]⟩

/-- The same profile, made without measuring. -/
def boothEstimate : Properties := ⟨boothProfile.entries ++ [("automatic_generated", "1")]⟩

/-- Points for the model, and some for the serial number. -/
def boothMap : RankMap := ⟨[⟨"model", 5, -2, 0⟩, ⟨"serial", 7, -1, 0⟩]⟩

/-- The path of the first monitor. -/
def monitorPath : String := "org/freedesktop/openicc/device/monitor/0/"

theorem rank_under_booth :
    (∃ head, monitorPath = head ++ "/") ∧ booth.Plain ∧ boothEstimate.Plain ∧
      boothProfile.Plain ∧ boothProfile.isAutoGenerated = false ∧
      rank booth boothEstimate (some boothMap) {} false =
        subSaturating (rank booth (boothEstimate.under monitorPath) (some boothMap) {} false) 13 ∧
      rank booth (boothProfile.under monitorPath) (some boothMap) {} false =
        rank booth boothProfile (some boothMap) {} false := by
  have hpath : ∃ head, monitorPath = head ++ "/" :=
    ⟨"org/freedesktop/openicc/device/monitor/0", rfl⟩
  have hdevice : booth.Plain := by decide
  have hestimate : boothEstimate.Plain := by decide
  have hprofile : boothProfile.Plain := by decide
  have hauto : boothProfile.isAutoGenerated = false := by decide +kernel
  have hpenalty : penalty boothEstimate {} = 13 := by decide +kernel
  refine ⟨hpath, hdevice, hestimate, hprofile, hauto, ?_, ?_⟩
  · rw [← hpenalty]
    exact (rank_under (some boothMap) {} false hpath hdevice hestimate).1
  · exact (rank_under (some boothMap) {} false hpath hdevice hprofile).2 hauto

/-- A flag behind a path is missed, and with it the penalty. -/
theorem rank_boothEstimate_under :
    (∃ head, monitorPath = head ++ "/") ∧ booth.Plain ∧ boothEstimate.Plain ∧
      boothEstimate.keys.Nodup ∧
      rank booth boothEstimate (some boothMap) {} false = -9 ∧
      rank booth (boothEstimate.under monitorPath) (some boothMap) {} false = 4 := by
  refine ⟨⟨"org/freedesktop/openicc/device/monitor/0", rfl⟩, ?_, ?_, ?_, ?_, ?_⟩
  · decide
  · decide
  · decide
  · decide +kernel
  · decide +kernel

end Matching

end IccProfile
