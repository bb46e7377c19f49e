import IccProfile.Matching.Rank
import IccProfile.Proofs.Device.RankMap
import IccProfile.Proofs.Matching.Value

/-!
# Ranks of properties that were counted

With a map that counts keys a property gives one point or none, so a rank that is above
zero stays above zero, also where sums are held within their bounds
(`addProperty_counting_pos`). The first property of a device is compared with itself
in a profile that has the values of the device, and gives the first point
(`rank_counting_pos`).
-/

set_option autoImplicit false

namespace IccProfile.Matching

theorem toInt_saturate (n : Int) :
    (saturate n).toInt = max (-2147483648) (min 2147483647 n) := by
  apply Int32.toInt_ofInt_of_le
  · omega
  · omega

/-- A sum with a point or none stays above zero. -/
theorem addSaturating_pos {a b : Int32} (ha : 0 < a) (hb : b = 0 ∨ b = 1) :
    0 < addSaturating a b := by
  rw [Int32.lt_iff_toInt_lt, Int32.toInt_zero] at ha ⊢
  rw [addSaturating, toInt_saturate]
  have hzero : (0 : Int32).toInt = 0 := rfl
  have hone : (1 : Int32).toInt = 1 := rfl
  rcases hb with rfl | rfl
  · omega
  · omega

section Counting

variable {device candidate : Properties} {policy : RankPolicy} {subString : Bool}

/-- A counted property gives one point or none. -/
theorem points_counting (key value : String) (found? : Option String) (delta : Float) :
    points ⟨key, 1, 0, 0⟩ value found? delta subString = 0 ∨
      points ⟨key, 1, 0, 0⟩ value found? delta subString = 1 := by
  unfold points
  cases found? with
  | none => exact .inl rfl
  | some found =>
      simp only
      split
      · exact .inr rfl
      · exact .inl rfl

/-- A rank above zero stays above zero with a further counted property. -/
theorem addProperty_counting_pos (keys : List String) {rank : Int32} (h : 0 < rank)
    (property : String × String) :
    0 < addProperty candidate (some (RankMap.counting keys)) policy subString rank property := by
  rw [addProperty, Option.bind_some, RankMap.get?_counting]
  by_cases hkey : property.1 ∈ keys
  · rw [if_pos hkey]
    exact addSaturating_pos h (points_counting ..)
  · rw [if_neg hkey]
    exact h

theorem foldl_addProperty_counting_pos (keys : List String) {rank : Int32} (h : 0 < rank)
    (properties : List (String × String)) :
    0 < properties.foldl (addProperty candidate (some (RankMap.counting keys)) policy subString)
      rank := by
  induction properties generalizing rank with
  | nil => exact h
  | cons first rest ih => exact ih (addProperty_counting_pos keys h first)

/-- A counted property whose value is found gives the first point. -/
theorem addProperty_counting_first {keys : List String} {key value : String} (hkey : key ∈ keys)
    (hfound : candidate.lookup key = some value) :
    0 < addProperty candidate (some (RankMap.counting keys)) policy subString 0 (key, value) := by
  rw [addProperty, Option.bind_some, RankMap.get?_counting, if_pos hkey]
  simp only [hfound, points, valueMatches_self, if_true]
  decide

/-- Properties that are found as those of the device, with no flag for profiles made without
measuring, rank above zero when each key of the device counts. -/
theorem rank_counting_pos (hproperties : device.entries ≠ [])
    (hfound : ∀ key value, device.get? key = some value → candidate.get? key = some value)
    (hauto : candidate.isAutoGenerated = false) :
    0 < rank device candidate (some (RankMap.counting device.keys)) policy subString := by
  obtain ⟨⟨key, value⟩, rest, hentries⟩ := List.exists_cons_of_ne_nil hproperties
  have hpenalty : penalty? candidate policy = none := by
    rw [penalty?, hauto]
    rfl
  have hkey : key ∈ device.keys := by
    rw [Properties.keys, hentries]
    exact List.mem_cons_self
  -- the value of the first property is the one that is found for its key
  have hself : device.get? key = some value := by
    have hfirst : decide ((key, value).1 = key) = true := decide_eq_true rfl
    rw [Properties.get?, hentries, List.find?_cons, hfirst]
    rfl
  have hlookup : candidate.lookup key = some value := by
    rw [Properties.lookup, hfound key value hself, Option.some_or]
  simp only [rank, hpenalty]
  rw [hentries, List.foldl_cons]
  exact foldl_addProperty_counting_pos _ (addProperty_counting_first hkey hlookup) rest

end Counting

end IccProfile.Matching
