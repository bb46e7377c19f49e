import IccProfile.Proofs.Matching.Monotone
import Mathlib.Algebra.BigOperators.Group.List.Basic
import Mathlib.Algebra.Order.Ring.Int

/-!
# Ranks as sums

A rank is the sum of the points that the properties of a device earn (`awarded`), held within
its bounds after each of them, less the penalty (`rank_eq_foldl`). When the absolute values of
the points fit into 32 bits no sum reaches a bound on the way, so the rank is the exact sum
(`toInt_rank`).

Each property earns the points of one entry of the map, so the points of a map are those of its
single entries put together (`sum_awarded_cons`). `rank_eq_sum` says that the rank is the sum of
both kinds of parts.
-/

set_option autoImplicit false

namespace IccProfile.Matching

/-! ## Points in a row -/

/-- The sum of points as an integer. -/
def total (ps : List Int32) : Int := (ps.map Int32.toInt).sum

/-- The sum of the absolute values of points. -/
def magnitude (ps : List Int32) : Nat := (ps.map fun n => n.toInt.natAbs).sum

/-- A sum is at most the sum of the absolute values. -/
theorem natAbs_total_le (ps : List Int32) : (total ps).natAbs ≤ magnitude ps := by
  induction ps with
  | nil => exact Nat.le_refl 0
  | cons first rest ih =>
      have htotal : total (first :: rest) = first.toInt + total rest := rfl
      have hmagnitude : magnitude (first :: rest) = first.toInt.natAbs + magnitude rest := rfl
      omega

/-- A sum within bounds is the exact one when the absolute values fit. -/
theorem toInt_foldl_addSaturating {start : Int32} {ps : List Int32}
    (h : start.toInt.natAbs + magnitude ps ≤ 2147483647) :
    (ps.foldl addSaturating start).toInt = start.toInt + total ps := by
  induction ps generalizing start with
  | nil => rw [List.foldl_nil, total, List.map_nil, List.sum_nil, Int.add_zero]
  | cons first rest ih =>
      have htotal : total (first :: rest) = first.toInt + total rest := rfl
      have hmagnitude : magnitude (first :: rest) = first.toInt.natAbs + magnitude rest := rfl
      -- the first sum does not reach a bound
      have hfirst : (addSaturating start first).toInt = start.toInt + first.toInt := by
        rw [addSaturating, toInt_saturate]
        omega
      rw [List.foldl_cons, ih (by omega), hfirst, htotal, Int.add_assoc]

section Rank

variable {device candidate other : Properties} {map? : Option RankMap} {policy : RankPolicy}
  {subString : Bool}

/-- The points that a property of a device earns, none when its key is not in the map. -/
def earned? (candidate : Properties) (map? : Option RankMap) (policy : RankPolicy)
    (subString : Bool) (property : String × String) : Option Int32 :=
  (map?.bind (·.get? property.1)).map fun entry =>
    points entry property.2 (candidate.lookup property.1) policy.delta subString

/-- The points that the properties of a device earn, one after the other. -/
def awarded (device candidate : Properties) (map? : Option RankMap) (policy : RankPolicy)
    (subString : Bool) : List Int32 :=
  device.entries.filterMap (earned? candidate map? policy subString)

/-- A rank is the sum of the points within bounds less the penalty. -/
theorem rank_eq_foldl (device candidate : Properties) (map? : Option RankMap)
    (policy : RankPolicy) (subString : Bool) :
    rank device candidate map? policy subString =
      subSaturating ((awarded device candidate map? policy subString).foldl addSaturating 0)
        (penalty candidate policy) := by
  rw [rank_eq, awarded, List.foldl_filterMap]
  congr 2
  funext rank property
  rw [addProperty, earned?]
  cases map?.bind (·.get? property.1) <;> rfl

/-- Nothing is taken from the rank of a candidate without a flag. -/
theorem penalty_of_not_isAutoGenerated (h : candidate.isAutoGenerated = false)
    (policy : RankPolicy) : penalty candidate policy = 0 := by
  rw [penalty, penalty?, h]
  rfl

/-- A rank is the exact sum of the points less the penalty when their absolute values fit. -/
theorem toInt_rank
    (h : magnitude (awarded device candidate map? policy subString) +
      (penalty candidate policy).toInt.natAbs ≤ 2147483647) :
    (rank device candidate map? policy subString).toInt =
      total (awarded device candidate map? policy subString) -
        (penalty candidate policy).toInt := by
  have hfit : (0 : Int32).toInt.natAbs +
      magnitude (awarded device candidate map? policy subString) ≤ 2147483647 := by
    rw [Int32.toInt_zero]
    omega
  have hsum := toInt_foldl_addSaturating hfit
  have habs := natAbs_total_le (awarded device candidate map? policy subString)
  rw [Int32.toInt_zero, Int.zero_add] at hsum
  rw [rank_eq_foldl, subSaturating, toInt_saturate, hsum]
  omega

/-! ## The entries of a map -/

variable {entry : RankEntry} {rest : List RankEntry} {property : String × String}

/-- The first entry gives the points of a property of its key. -/
theorem earned?_of_key (h : entry.key = property.1) (rest : List RankEntry) :
    earned? candidate (some ⟨entry :: rest⟩) policy subString property =
      some (points entry property.2 (candidate.lookup property.1) policy.delta subString) := by
  have hget : RankMap.get? ⟨entry :: rest⟩ property.1 = some entry := by
    rw [RankMap.get?, List.find?_cons, decide_eq_true h]
  rw [earned?, Option.bind_some, hget, Option.map_some]

/-- A property of another key earns what the other entries give. -/
theorem earned?_of_key_ne (h : entry.key ≠ property.1) (rest : List RankEntry) :
    earned? candidate (some ⟨entry :: rest⟩) policy subString property =
      earned? candidate (some ⟨rest⟩) policy subString property := by
  have hget : RankMap.get? ⟨entry :: rest⟩ property.1 = RankMap.get? ⟨rest⟩ property.1 := by
    rw [RankMap.get?, List.find?_cons, decide_eq_false h, RankMap.get?]
  rw [earned?, earned?, Option.bind_some, Option.bind_some, hget]

/-- A property whose key no entry has earns nothing. -/
theorem earned?_eq_none (h : property.1 ∉ rest.map (·.key)) :
    earned? candidate (some ⟨rest⟩) policy subString property = none := by
  have hget : RankMap.get? ⟨rest⟩ property.1 = none := by
    rw [RankMap.get?, List.find?_eq_none]
    intro other hother hkey
    exact h (List.mem_map.mpr ⟨other, hother, of_decide_eq_true hkey⟩)
  rw [earned?, Option.bind_some, hget, Option.map_none]

/-- What the first entry of a map gives and what the other ones give add up to what the map
gives, in whatever way points are counted. -/
theorem sum_awarded_cons {α : Type} [AddCommMonoid α] (count : Int32 → α)
    (hnew : entry.key ∉ rest.map (·.key)) (device candidate : Properties) (policy : RankPolicy)
    (subString : Bool) :
    ((awarded device candidate (some ⟨entry :: rest⟩) policy subString).map count).sum =
      ((awarded device candidate (some ⟨[entry]⟩) policy subString).map count).sum +
        ((awarded device candidate (some ⟨rest⟩) policy subString).map count).sum := by
  simp only [awarded]
  induction device.entries with
  | nil => simp
  | cons property others ih =>
      rw [List.filterMap_cons, List.filterMap_cons, List.filterMap_cons]
      by_cases hkey : entry.key = property.1
      -- only the first entry gives points
      · rw [earned?_of_key hkey, earned?_of_key hkey, earned?_eq_none (hkey ▸ hnew)]
        simp only [List.map_cons, List.sum_cons, ih, add_assoc]
      -- only the other entries do, if any
      · have hnone : earned? candidate (some ⟨[]⟩) policy subString property = none :=
          earned?_eq_none List.not_mem_nil
        rw [earned?_of_key_ne hkey, earned?_of_key_ne hkey, hnone]
        cases earned? candidate (some ⟨rest⟩) policy subString property with
        | none => exact ih
        | some n => simp only [List.map_cons, List.sum_cons, ih, add_left_comm]

/-- The ranks for the single entries of a map add up to the points that the map gives. -/
theorem sum_toInt_rank (hauto : candidate.isAutoGenerated = false) {entries : List RankEntry}
    (hkeys : (entries.map (·.key)).Nodup)
    (h : magnitude (awarded device candidate (some ⟨entries⟩) policy subString) ≤ 2147483647) :
    (entries.map fun entry =>
        (rank device candidate (some ⟨[entry]⟩) policy subString).toInt).sum =
      total (awarded device candidate (some ⟨entries⟩) policy subString) := by
  have hpenalty := penalty_of_not_isAutoGenerated hauto policy
  induction entries with
  | nil =>
      have hnone : awarded device candidate (some ⟨[]⟩) policy subString = [] :=
        List.filterMap_eq_nil_iff.mpr fun _ _ => earned?_eq_none List.not_mem_nil
      rw [hnone]
      rfl
  | cons entry rest ih =>
      obtain ⟨hnew, hrest⟩ := List.nodup_cons.mp hkeys
      have hmagnitude : magnitude _ = magnitude _ + magnitude _ :=
        sum_awarded_cons (fun n => n.toInt.natAbs) hnew device candidate policy subString
      have htotal : total _ = total _ + total _ :=
        sum_awarded_cons Int32.toInt hnew device candidate policy subString
      have hfit : magnitude (awarded device candidate (some ⟨[entry]⟩) policy subString) +
          (penalty candidate policy).toInt.natAbs ≤ 2147483647 := by
        rw [hpenalty, Int32.toInt_zero]
        omega
      have hfirst := toInt_rank hfit
      rw [hpenalty, Int32.toInt_zero, Int.sub_zero] at hfirst
      rw [List.map_cons, List.sum_cons, hfirst, ih hrest (by omega), htotal]

/-- A rank is the exact sum of the points that the properties of the device earn, less the
penalty, when the absolute values of all of them fit into 32 bits. Without a penalty it is the
sum of the ranks for the single entries of the map, in whatever order the map has them. -/
theorem rank_eq_sum {map : RankMap} (hmap : map.Distinct)
    (hbound : magnitude (awarded device candidate (some map) policy subString) +
      (penalty candidate policy).toInt.natAbs ≤ 2147483647) :
    (rank device candidate (some map) policy subString).toInt =
        total (awarded device candidate (some map) policy subString) -
          (penalty candidate policy).toInt ∧
      (candidate.isAutoGenerated = false → ∀ entries, entries.Perm map.entries →
        (rank device candidate (some ⟨entries⟩) policy subString).toInt =
          (map.entries.map fun entry =>
            (rank device candidate (some ⟨[entry]⟩) policy subString).toInt).sum) := by
  refine ⟨toInt_rank hbound, ?_⟩
  intro hauto entries hperm
  have hfit : magnitude (awarded device candidate (some map) policy subString) ≤ 2147483647 :=
    Nat.le_trans (Nat.le_add_right ..) hbound
  have hsame : awarded device candidate (some ⟨entries⟩) policy subString =
      awarded device candidate (some map) policy subString := by
    refine List.filterMap_congr fun property _ => ?_
    rw [earned?, earned?, Option.bind_some, Option.bind_some, RankMap.get?_perm hmap hperm]
  rw [toInt_rank (by rw [hsame]; exact hbound), hsame, sum_toInt_rank hauto hmap hfit,
    penalty_of_not_isAutoGenerated hauto, Int32.toInt_zero, Int.sub_zero]

end Rank

/-- A device with a key twice. -/
def duplex : Properties :=
  ⟨[("EDID_model", "P9"), ("serial", "7"), ("host", "desk"), ("EDID_model", "P8")]⟩

/-- Points that come near the bound. -/
def steep : RankMap :=
  ⟨[⟨"EDID_model", 2147483000, -600, 0⟩, ⟨"serial", 1, -1, -34⟩, ⟨"vendor", 5, 5, 5⟩]⟩

/-- A profile for another device of the model. -/
def measured : Properties := ⟨[("EDID_model", "P9"), ("serial", "8")]⟩

/-- The same profile, made without measuring. -/
def estimated : Properties := ⟨measured.entries ++ [("automatic_generated", "1")]⟩

theorem rank_eq_sum_duplex :
    steep.Distinct ∧
      magnitude (awarded duplex estimated (some steep) {} false) +
        (penalty estimated {}).toInt.natAbs ≤ 2147483647 ∧
      (rank duplex estimated (some steep) {} false).toInt = 2147483000 - 1 - 600 - 13 ∧
      magnitude (awarded duplex measured (some steep) {} false) +
        (penalty measured {}).toInt.natAbs ≤ 2147483647 ∧
      measured.isAutoGenerated = false ∧
      (rank duplex measured (some ⟨steep.entries.reverse⟩) {} false).toInt =
        (steep.entries.map fun entry =>
          (rank duplex measured (some ⟨[entry]⟩) {} false).toInt).sum := by
  have hmap : steep.Distinct := by
    unfold RankMap.Distinct
    decide
  have hestimated : magnitude (awarded duplex estimated (some steep) {} false) +
      (penalty estimated {}).toInt.natAbs ≤ 2147483647 := by
    decide +kernel
  have hmeasured : magnitude (awarded duplex measured (some steep) {} false) +
      (penalty measured {}).toInt.natAbs ≤ 2147483647 := by
    decide +kernel
  have hauto : measured.isAutoGenerated = false := by decide +kernel
  have htotal : total (awarded duplex estimated (some steep) {} false) -
      (penalty estimated {}).toInt = 2147483000 - 1 - 600 - 13 := by
    decide +kernel
  exact ⟨hmap, hestimated, (rank_eq_sum hmap hestimated).1.trans htotal, hmeasured, hauto,
    (rank_eq_sum hmap hmeasured).2 hauto _ (List.reverse_perm _)⟩

end IccProfile.Matching
