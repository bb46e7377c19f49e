import IccProfile.Proofs.Device.Properties
import IccProfile.Proofs.Matching.Rank

/-!
# A match never lowers a rank

Sums and differences within bounds grow with their parts (`addSaturating_mono`,
`subSaturating_mono`), so a rank grows when no property of the device earns fewer points
and the penalty stays (`addProperty_mono` for one property, `rank_mono` for all). With a map
that `FavorsMatch` no value earns more than one that matches (`points_le_onMatch`).

`rank_matching` puts this together: setting a property of the device in a candidate never
lowers the rank of the candidate, and no candidate ranks above one that has the values of
the device.
-/

set_option autoImplicit false

namespace IccProfile

/-- A match gives at least as many points as a mismatch and as a missing value. -/
def RankMap.FavorsMatch (map : RankMap) : Prop :=
  ∀ entry ∈ map.entries, entry.onMismatch ≤ entry.onMatch ∧ entry.onMissing ≤ entry.onMatch

instance (map : RankMap) : Decidable map.FavorsMatch := List.decidableBAll _ _

namespace Matching

/-! ## Sums within bounds -/

theorem saturate_mono {m n : Int} (h : m ≤ n) : saturate m ≤ saturate n := by
  rw [Int32.le_iff_toInt_le, toInt_saturate, toInt_saturate]
  omega

theorem addSaturating_mono {a b c d : Int32} (hab : a ≤ b) (hcd : c ≤ d) :
    addSaturating a c ≤ addSaturating b d := by
  rw [Int32.le_iff_toInt_le] at hab hcd
  exact saturate_mono (by omega)

theorem subSaturating_mono {a b : Int32} (h : a ≤ b) (c : Int32) :
    subSaturating a c ≤ subSaturating b c := by
  rw [Int32.le_iff_toInt_le] at h
  exact saturate_mono (by omega)

/-- A difference to zero stays within the bounds. -/
theorem subSaturating_zero (a : Int32) : subSaturating a 0 = a := by
  have hlow := a.le_toInt
  have hhigh := a.toInt_lt
  apply Int32.toInt_inj.mp
  rw [subSaturating, toInt_saturate, Int32.toInt_zero]
  omega

section Rank

variable {device candidate other : Properties} {map? : Option RankMap} {policy : RankPolicy}
  {subString : Bool}

/-- What is taken from the rank of a candidate, zero when nothing is. -/
def penalty (candidate : Properties) (policy : RankPolicy) : Int32 :=
  (penalty? candidate policy).getD 0

/-- A rank is the sum of the points less the penalty. -/
theorem rank_eq (device candidate : Properties) (map? : Option RankMap) (policy : RankPolicy)
    (subString : Bool) :
    rank device candidate map? policy subString =
      subSaturating (device.entries.foldl (addProperty candidate map? policy subString) 0)
        (penalty candidate policy) := by
  simp only [rank, penalty]
  cases penalty? candidate policy with
  | none => rw [Option.getD_none, subSaturating_zero]
  | some taken => rfl

/-- A further property keeps the order of two ranks when it earns no fewer points. -/
theorem addProperty_mono {property : String × String} {low high : Int32} (hrank : low ≤ high)
    (hpoints : ∀ entry, map?.bind (·.get? property.1) = some entry →
      points entry property.2 (candidate.lookup property.1) policy.delta subString ≤
        points entry property.2 (other.lookup property.1) policy.delta subString) :
    addProperty candidate map? policy subString low property ≤
      addProperty other map? policy subString high property := by
  unfold addProperty
  cases hentry : map?.bind (·.get? property.1) with
  | none => exact hrank
  | some entry => exact addSaturating_mono hrank (hpoints entry hentry)

/-- A candidate ranks no lower when no property of the device earns fewer points and the penalty
is the same. -/
theorem rank_mono (hpenalty : penalty candidate policy = penalty other policy)
    (hpoints : ∀ property ∈ device.entries, ∀ entry,
      map?.bind (·.get? property.1) = some entry →
        points entry property.2 (candidate.lookup property.1) policy.delta subString ≤
          points entry property.2 (other.lookup property.1) policy.delta subString) :
    rank device candidate map? policy subString ≤ rank device other map? policy subString := by
  rw [rank_eq, rank_eq, hpenalty]
  apply subSaturating_mono
  -- the two sums are compared property by property
  apply List.foldl_rel (r := (· ≤ ·))
  · exact Int32.le_refl 0
  · intro property hproperty low high hrank
    exact addProperty_mono hrank (hpoints property hproperty)

/-! ## Points of a match -/

/-- An entry that is found stands in the map. -/
theorem mem_entries_of_get? {map : RankMap} {key : String} {entry : RankEntry}
    (h : map.get? key = some entry) : entry ∈ map.entries :=
  List.mem_of_find?_eq_some h

/-- No value earns more points than one that matches. -/
theorem points_le_onMatch {entry : RankEntry} (hmismatch : entry.onMismatch ≤ entry.onMatch)
    (hmissing : entry.onMissing ≤ entry.onMatch) (value : String) (found? : Option String)
    (delta : Float) : points entry value found? delta subString ≤ entry.onMatch := by
  cases found? with
  | none => exact hmissing
  | some found =>
      rw [points]
      split
      · exact Int32.le_refl _
      · exact hmismatch

/-- The value of the device earns the points of a match. -/
theorem points_self (entry : RankEntry) (value : String) (delta : Float) :
    points entry value (some value) delta subString = entry.onMatch := by
  rw [points, valueMatches_self]
  rfl

/-- Where the value of the device is found, no other candidate earns more. -/
theorem points_le_of_lookup (hmap : ∀ map, map? = some map → map.FavorsMatch)
    {key value : String} (hfound : other.lookup key = some value) {entry : RankEntry}
    (hentry : map?.bind (·.get? key) = some entry) :
    points entry value (candidate.lookup key) policy.delta subString ≤
      points entry value (other.lookup key) policy.delta subString := by
  obtain ⟨map, hsome, hget⟩ := Option.bind_eq_some_iff.mp hentry
  obtain ⟨hmismatch, hmissing⟩ := hmap map hsome entry (mem_entries_of_get? hget)
  rw [hfound, points_self]
  exact points_le_onMatch hmismatch hmissing ..

end Rank

/-! ## Setting a property -/

/-- The penalty depends on the flags and on whether there is a serial number. -/
theorem penalty_set {key : String} (hserial : key ≠ "serial")
    (hflag : key ∉ Properties.autoGeneratedKeys) (candidate : Properties) (value : String)
    (policy : RankPolicy) :
    penalty (candidate.set key value) policy = penalty candidate policy := by
  rw [penalty, penalty?, Properties.isAutoGenerated_set hflag,
    Properties.contains_set_of_ne hserial, penalty, penalty?]

/-- A key that is there once has one value. -/
theorem value_unique {device : Properties} (hkeys : device.keys.Nodup) {key value found : String}
    (hvalue : (key, value) ∈ device.entries) (hfound : (key, found) ∈ device.entries) :
    found = value := by
  have hsame := List.inj_on_of_nodup_map hkeys hfound hvalue rfl
  exact (Prod.mk.inj hsame).2

/-- For a device whose keys differ and points that favor a match, setting a property of the
device in a candidate never lowers its rank, as long as the property plays no part in the penalty
and its key does not end in a slash and another key of the device. A candidate that has the value
of the device for each key ranks at least as high as every other one with the same penalty. -/
theorem rank_matching {device : Properties} {map? : Option RankMap} (hkeys : device.keys.Nodup)
    (hmap : ∀ map, map? = some map → map.FavorsMatch) (policy : RankPolicy) (subString : Bool) :
    (∀ (candidate : Properties) (key value : String), (key, value) ∈ device.entries →
      key ≠ "serial" → key ∉ Properties.autoGeneratedKeys →
      (∀ name ∈ device.keys, name ≠ key → ∀ head, key ≠ head ++ "/" ++ name) →
      rank device candidate map? policy subString ≤
        rank device (candidate.set key value) map? policy subString) ∧
    (∀ best other : Properties,
      (∀ key value, (key, value) ∈ device.entries → best.get? key = some value) →
      penalty best policy = penalty other policy →
      rank device other map? policy subString ≤ rank device best map? policy subString) := by
  constructor
  · intro candidate key value hvalue hserial hflag hend
    apply rank_mono (penalty_set hserial hflag candidate value policy).symm
    rintro ⟨name, found⟩ hproperty entry hentry
    by_cases hname : name = key
    -- the property itself is found with the value of the device
    · subst hname
      obtain rfl := value_unique hkeys hvalue hproperty
      exact points_le_of_lookup hmap (Properties.lookup_set_self ..) hentry
    -- every other property is found as before
    · have hmem : name ∈ device.keys := List.mem_map.mpr ⟨(name, found), hproperty, rfl⟩
      rw [Properties.lookup_set (Ne.symm hname) (hend name hmem hname)]
      exact Int32.le_refl _
  · intro best other hbest hpenalty
    apply rank_mono hpenalty.symm
    rintro ⟨key, value⟩ hproperty entry hentry
    exact points_le_of_lookup hmap (Properties.lookup_of_get? (hbest key value hproperty)) hentry

/-- A device of which one key is a longer name of another. -/
def projector : Properties :=
  ⟨[("EDID_model", "P9,P8"), ("vendor/serial", "7"), ("serial", "7")]⟩

/-- Points that reach the bounds. -/
def decisive : RankMap :=
  ⟨[⟨"EDID_model", 2147483647, -2147483648, 0⟩, ⟨"serial", 1, -1, -1⟩]⟩

/-- A profile that was made without measuring, for another projector. -/
def unmeasured : Properties :=
  ⟨[("EDID_model", "P7"), ("automatic_generated", "1"), ("serial", "8"), ("EDID_model", "P9")]⟩

/-- A profile that was made without measuring, for this projector. -/
def unmeasuredMatch : Properties := ⟨("automatic_generated", "1") :: projector.entries⟩

theorem rank_matching_projector :
    projector.keys.Nodup ∧ decisive.FavorsMatch ∧
      (∀ name ∈ projector.keys, name ≠ "EDID_model" →
        ∀ head : String, "EDID_model" ≠ head ++ "/" ++ name) ∧
      (∀ key value, (key, value) ∈ projector.entries → unmeasuredMatch.get? key = some value) ∧
      penalty unmeasuredMatch {} = penalty unmeasured {} ∧
      rank projector unmeasured (some decisive) {} false ≤
        rank projector (unmeasured.set "EDID_model" "P9,P8") (some decisive) {} false ∧
      rank projector unmeasured (some decisive) {} false ≤
        rank projector unmeasuredMatch (some decisive) {} false := by
  have hkeys : projector.keys.Nodup := by decide
  have hmap : decisive.FavorsMatch := by decide
  have hnames : ∀ name ∈ projector.keys, name ≠ "EDID_model" →
      ∀ head : String, "EDID_model" ≠ head ++ "/" ++ name := by
    intro name hname hne head hends
    have hsuffix : ∀ name ∈ projector.keys, name ≠ "EDID_model" →
        Properties.endsInKey name "EDID_model" = false := by
      decide +kernel
    have hkey := Properties.endsInKey_iff.mpr ⟨head, hends⟩
    rw [hsuffix name hname hne] at hkey
    cases hkey
  have hvalues : ∀ key value, (key, value) ∈ projector.entries →
      unmeasuredMatch.get? key = some value := by
    have hall : ∀ property ∈ projector.entries,
        unmeasuredMatch.get? property.1 = some property.2 := by
      decide +kernel
    exact fun key value hproperty => hall (key, value) hproperty
  have hpenalty : penalty unmeasuredMatch {} = penalty unmeasured {} := by rfl
  have hmaps : ∀ map, some decisive = some map → map.FavorsMatch := by
    rintro map ⟨⟩
    exact hmap
  obtain ⟨hset, hbest⟩ := rank_matching hkeys hmaps {} false
  exact ⟨hkeys, hmap, hnames, hvalues, hpenalty,
    hset unmeasured "EDID_model" "P9,P8" (by decide) (by decide) (by decide) hnames,
    hbest unmeasuredMatch unmeasured hvalues hpenalty⟩

end Matching

end IccProfile
