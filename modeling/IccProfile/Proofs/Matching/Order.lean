import IccProfile.Proofs.Matching.Sum
import Mathlib.Algebra.Order.BigOperators.Group.List
import Mathlib.Algebra.Order.Group.Int

/-!
# Ranks and the order of the properties

Points are added within bounds, so a gain beyond the upper bound is lost, and how much is lost
depends on the order. A sum is smallest when all gains come before the losses, and largest when
they come behind them: a further number may only raise the smallest sum of what is left and
lower the largest (`lowest_cons_le`, `highest_le_cons`), so every sum lies between the two
(`foldl_addSaturating_between`).

`rank_perm` says so of ranks. The order of the properties of a device does not matter as long as
neither the gains nor the losses go beyond their bound, or where there is only one of the two
(`OrderFree`). In all other cases it does, for a candidate without a penalty.
-/

set_option autoImplicit false

namespace IccProfile.Matching

/-! ## Gains and losses -/

/-- The sum of the points above zero. -/
def gains (ps : List Int32) : Int := (ps.map fun n => max n.toInt 0).sum

/-- The sum of the points below zero, without the sign. -/
def losses (ps : List Int32) : Int := (ps.map fun n => max (-n.toInt) 0).sum

section Points

variable {ps qs : List Int32}

theorem gains_nonneg (ps : List Int32) : 0 ≤ gains ps :=
  List.sum_nonneg (List.forall_mem_map.mpr fun _ _ => Int.le_max_right ..)

theorem losses_nonneg (ps : List Int32) : 0 ≤ losses ps :=
  List.sum_nonneg (List.forall_mem_map.mpr fun _ _ => Int.le_max_right ..)

theorem gains_eq_zero (h : ∀ n ∈ ps, n.toInt < 0) : gains ps = 0 :=
  List.sum_eq_zero (List.forall_mem_map.mpr fun n hn => Int.max_eq_right (Int.le_of_lt (h n hn)))

theorem losses_eq_zero (h : ∀ n ∈ ps, 0 ≤ n.toInt) : losses ps = 0 :=
  List.sum_eq_zero (List.forall_mem_map.mpr fun n hn => Int.max_eq_right (by have := h n hn; omega))

theorem gains_perm (h : ps.Perm qs) : gains ps = gains qs := (h.map _).sum_eq

theorem losses_perm (h : ps.Perm qs) : losses ps = losses qs := (h.map _).sum_eq

theorem gains_append (ps qs : List Int32) : gains (ps ++ qs) = gains ps + gains qs := by
  rw [gains, List.map_append, List.sum_append, gains, gains]

theorem losses_append (ps qs : List Int32) : losses (ps ++ qs) = losses ps + losses qs := by
  rw [losses, List.map_append, List.sum_append, losses, losses]

end Points

/-! ## Sums within bounds -/

/-- The sum within bounds of gains and then losses. -/
def lowest (start : Int32) (ps : List Int32) : Int32 :=
  saturate ((saturate (start.toInt + gains ps)).toInt - losses ps)

/-- The sum within bounds of losses and then gains. -/
def highest (start : Int32) (ps : List Int32) : Int32 :=
  saturate ((saturate (start.toInt - losses ps)).toInt + gains ps)

/-- Gains cannot reach the lower bound and losses cannot reach the upper one. -/
theorem toInt_lowest (start : Int32) (ps : List Int32) :
    (lowest start ps).toInt =
      max (-2147483648) (min 2147483647 (start.toInt + gains ps) - losses ps) := by
  have hlow := start.le_toInt
  have hgains := gains_nonneg ps
  have hlosses := losses_nonneg ps
  rw [lowest, toInt_saturate, toInt_saturate]
  omega

theorem toInt_highest (start : Int32) (ps : List Int32) :
    (highest start ps).toInt =
      min 2147483647 (max (-2147483648) (start.toInt - losses ps) + gains ps) := by
  have hhigh := start.toInt_lt
  have hgains := gains_nonneg ps
  have hlosses := losses_nonneg ps
  rw [highest, toInt_saturate, toInt_saturate]
  omega

theorem lowest_perm {ps qs : List Int32} (h : ps.Perm qs) (start : Int32) :
    lowest start ps = lowest start qs := by
  rw [lowest, gains_perm h, losses_perm h, lowest]

theorem highest_perm {ps qs : List Int32} (h : ps.Perm qs) (start : Int32) :
    highest start ps = highest start qs := by
  rw [highest, gains_perm h, losses_perm h, highest]

section Step

variable (start first : Int32) (rest : List Int32)

/-- Adding a number may only raise the smallest sum. -/
theorem lowest_cons_le :
    lowest start (first :: rest) ≤ lowest (addSaturating start first) rest := by
  have hgains : gains (first :: rest) = max first.toInt 0 + gains rest := rfl
  have hlosses : losses (first :: rest) = max (-first.toInt) 0 + losses rest := rfl
  have hgained := gains_nonneg rest
  have hlost := losses_nonneg rest
  rw [Int32.le_iff_toInt_le, toInt_lowest, toInt_lowest, hgains, hlosses, addSaturating,
    toInt_saturate]
  omega

/-- It may only lower the largest sum. -/
theorem highest_le_cons :
    highest (addSaturating start first) rest ≤ highest start (first :: rest) := by
  have hgains : gains (first :: rest) = max first.toInt 0 + gains rest := rfl
  have hlosses : losses (first :: rest) = max (-first.toInt) 0 + losses rest := rfl
  have hgained := gains_nonneg rest
  have hlost := losses_nonneg rest
  rw [Int32.le_iff_toInt_le, toInt_highest, toInt_highest, hgains, hlosses, addSaturating,
    toInt_saturate]
  omega

end Step

/-- No sum within bounds is below that with the gains first or above that with the losses
first. -/
theorem foldl_addSaturating_between (start : Int32) (ps : List Int32) :
    lowest start ps ≤ ps.foldl addSaturating start ∧
      ps.foldl addSaturating start ≤ highest start ps := by
  induction ps generalizing start with
  | nil =>
      have hlow := start.le_toInt
      have hhigh := start.toInt_lt
      rw [Int32.le_iff_toInt_le, Int32.le_iff_toInt_le, toInt_lowest, toInt_highest]
      simp only [List.foldl_nil, gains, losses, List.map_nil, List.sum_nil]
      omega
  | cons first rest ih =>
      obtain ⟨hlow, hhigh⟩ := ih (addSaturating start first)
      exact ⟨Int32.le_trans (lowest_cons_le start first rest) hlow,
        Int32.le_trans hhigh (highest_le_cons start first rest)⟩

section Ordered

variable {ps qs : List Int32}

/-- A sum of gains alone is cut once. -/
theorem foldl_addSaturating_gains (h : losses ps = 0) (start : Int32) :
    ps.foldl addSaturating start = saturate (start.toInt + gains ps) := by
  obtain ⟨hlow, hhigh⟩ := foldl_addSaturating_between start ps
  have hgains := gains_nonneg ps
  have hstart := start.le_toInt
  rw [Int32.le_iff_toInt_le, toInt_lowest, h] at hlow
  rw [Int32.le_iff_toInt_le, toInt_highest, h] at hhigh
  apply Int32.toInt_inj.mp
  rw [toInt_saturate]
  omega

/-- A sum of losses alone is cut once. -/
theorem foldl_addSaturating_losses (h : gains ps = 0) (start : Int32) :
    ps.foldl addSaturating start = saturate (start.toInt - losses ps) := by
  obtain ⟨hlow, hhigh⟩ := foldl_addSaturating_between start ps
  have hlosses := losses_nonneg ps
  have hstart := start.toInt_lt
  rw [Int32.le_iff_toInt_le, toInt_lowest, h] at hlow
  rw [Int32.le_iff_toInt_le, toInt_highest, h] at hhigh
  apply Int32.toInt_inj.mp
  rw [toInt_saturate]
  omega

/-- Gains and then losses give the smallest sum. -/
theorem foldl_gains_losses (hps : losses ps = 0) (hqs : gains qs = 0) (start : Int32) :
    (ps ++ qs).foldl addSaturating start = lowest start (ps ++ qs) := by
  rw [List.foldl_append, foldl_addSaturating_gains hps, foldl_addSaturating_losses hqs, lowest,
    gains_append, losses_append, hps, hqs, Int.add_zero, Int.zero_add]

/-- Losses and then gains give the largest sum. -/
theorem foldl_losses_gains (hps : losses ps = 0) (hqs : gains qs = 0) (start : Int32) :
    (qs ++ ps).foldl addSaturating start = highest start (qs ++ ps) := by
  rw [List.foldl_append, foldl_addSaturating_losses hqs, foldl_addSaturating_gains hps, highest,
    gains_append, losses_append, hps, hqs, Int.zero_add, Int.add_zero]

end Ordered

/-- Gains and losses of which none goes beyond its bound, or gains alone, or losses alone. -/
def OrderFree (ps : List Int32) : Prop :=
  gains ps ≤ 2147483647 ∧ losses ps ≤ 2147483648 ∨ gains ps = 0 ∨ losses ps = 0

instance (ps : List Int32) : Decidable (OrderFree ps) := inferInstanceAs (Decidable (_ ∨ _))

/-- The smallest sum is the largest one only then. -/
theorem lowest_eq_highest_iff (ps : List Int32) : lowest 0 ps = highest 0 ps ↔ OrderFree ps := by
  have hgains := gains_nonneg ps
  have hlosses := losses_nonneg ps
  rw [← Int32.toInt_inj, toInt_lowest, toInt_highest, Int32.toInt_zero, OrderFree]
  omega

/-! ## Ranks -/

section Rank

variable (device candidate : Properties) (map? : Option RankMap) (policy : RankPolicy)
  (subString : Bool)

/-- Whether a property of a device costs points. -/
def costs (property : String × String) : Bool :=
  (earned? candidate map? policy subString property).any fun n => n.toInt < 0

/-- The device with the properties that cost points behind the other ones. -/
def gainsFirst : Properties :=
  ⟨device.entries.filter (fun property => !costs candidate map? policy subString property) ++
    device.entries.filter (costs candidate map? policy subString)⟩

/-- The device with the properties that cost points in front of the other ones. -/
def lossesFirst : Properties :=
  ⟨device.entries.filter (costs candidate map? policy subString) ++
    device.entries.filter fun property => !costs candidate map? policy subString property⟩

theorem perm_lossesFirst :
    (lossesFirst device candidate map? policy subString).entries.Perm device.entries :=
  List.filter_append_perm _ _

theorem perm_gainsFirst :
    (gainsFirst device candidate map? policy subString).entries.Perm device.entries :=
  List.perm_append_comm.trans (perm_lossesFirst device candidate map? policy subString)

/-- Points come from a property that was selected. -/
theorem exists_of_mem_awarded_filter {select : String × String → Bool} {n : Int32}
    (h : n ∈ awarded ⟨device.entries.filter select⟩ candidate map? policy subString) :
    ∃ property, select property = true ∧
      earned? candidate map? policy subString property = some n := by
  obtain ⟨property, hproperty, hearned⟩ := List.mem_filterMap.mp h
  exact ⟨property, (List.mem_filter.mp hproperty).2, hearned⟩

/-- The points of the properties that cost none hold no losses. -/
theorem losses_awarded_filter :
    losses (awarded ⟨device.entries.filter fun property =>
      !costs candidate map? policy subString property⟩ candidate map? policy subString) = 0 := by
  refine losses_eq_zero fun n hn => ?_
  obtain ⟨property, hcosts, hearned⟩ := exists_of_mem_awarded_filter _ _ _ _ _ hn
  simpa [costs, hearned] using hcosts

/-- The points of the properties that cost some hold no gains. -/
theorem gains_awarded_filter :
    gains (awarded ⟨device.entries.filter (costs candidate map? policy subString)⟩ candidate map?
      policy subString) = 0 := by
  refine gains_eq_zero fun n hn => ?_
  obtain ⟨property, hcosts, hearned⟩ := exists_of_mem_awarded_filter _ _ _ _ _ hn
  simpa [costs, hearned] using hcosts

theorem awarded_append (before after : List (String × String)) :
    awarded ⟨before ++ after⟩ candidate map? policy subString =
      awarded ⟨before⟩ candidate map? policy subString ++
        awarded ⟨after⟩ candidate map? policy subString :=
  List.filterMap_append

section Permuted

variable {device} {entries : List (String × String)} (h : entries.Perm device.entries)
include h

/-- The same points are awarded in another order. -/
theorem awarded_perm :
    (awarded ⟨entries⟩ candidate map? policy subString).Perm
      (awarded device candidate map? policy subString) :=
  h.filterMap _

/-- The rank for a device in any order of its properties. -/
theorem rank_between :
    subSaturating (lowest 0 (awarded device candidate map? policy subString))
        (penalty candidate policy) ≤ rank ⟨entries⟩ candidate map? policy subString ∧
      rank ⟨entries⟩ candidate map? policy subString ≤
        subSaturating (highest 0 (awarded device candidate map? policy subString))
          (penalty candidate policy) := by
  obtain ⟨hlow, hhigh⟩ :=
    foldl_addSaturating_between 0 (awarded ⟨entries⟩ candidate map? policy subString)
  rw [lowest_perm (awarded_perm _ _ _ _ h)] at hlow
  rw [highest_perm (awarded_perm _ _ _ _ h)] at hhigh
  rw [rank_eq_foldl]
  exact ⟨subSaturating_mono hlow _, subSaturating_mono hhigh _⟩

/-- There is one rank when the smallest sum is the largest one. -/
theorem rank_eq_of_lowest_eq_highest
    (hsame : lowest 0 (awarded device candidate map? policy subString) =
      highest 0 (awarded device candidate map? policy subString)) :
    rank ⟨entries⟩ candidate map? policy subString =
      subSaturating (lowest 0 (awarded device candidate map? policy subString))
        (penalty candidate policy) := by
  obtain ⟨hlow, hhigh⟩ := rank_between candidate map? policy subString h
  rw [← hsame] at hhigh
  exact Int32.le_antisymm hhigh hlow

end Permuted

theorem rank_gainsFirst :
    rank (gainsFirst device candidate map? policy subString) candidate map? policy subString =
      subSaturating (lowest 0 (awarded device candidate map? policy subString))
        (penalty candidate policy) := by
  have hperm := perm_gainsFirst device candidate map? policy subString
  rw [rank_eq_foldl, ← lowest_perm (awarded_perm _ _ _ _ hperm), gainsFirst, awarded_append,
    foldl_gains_losses (losses_awarded_filter ..) (gains_awarded_filter ..)]

theorem rank_lossesFirst :
    rank (lossesFirst device candidate map? policy subString) candidate map? policy subString =
      subSaturating (highest 0 (awarded device candidate map? policy subString))
        (penalty candidate policy) := by
  have hperm := perm_lossesFirst device candidate map? policy subString
  rw [rank_eq_foldl, ← highest_perm (awarded_perm _ _ _ _ hperm), lossesFirst, awarded_append,
    foldl_losses_gains (losses_awarded_filter ..) (gains_awarded_filter ..)]

/-- The rank for a device lies between those for its properties with the gains first and with the
losses first, in whatever order they are. All these ranks are the same when neither the gains nor
the losses go beyond their bound, and when there is only one of the two. In all other cases the
order matters to a candidate without a penalty. -/
theorem rank_perm :
    (gainsFirst device candidate map? policy subString).entries.Perm device.entries ∧
      (lossesFirst device candidate map? policy subString).entries.Perm device.entries ∧
      (∀ entries, entries.Perm device.entries →
        rank (gainsFirst device candidate map? policy subString) candidate map? policy subString ≤
            rank ⟨entries⟩ candidate map? policy subString ∧
          rank ⟨entries⟩ candidate map? policy subString ≤
            rank (lossesFirst device candidate map? policy subString) candidate map? policy
              subString) ∧
      (OrderFree (awarded device candidate map? policy subString) →
        ∀ entries, entries.Perm device.entries →
          rank ⟨entries⟩ candidate map? policy subString =
            rank device candidate map? policy subString) ∧
      (candidate.isAutoGenerated = false →
        ¬ OrderFree (awarded device candidate map? policy subString) →
          rank (gainsFirst device candidate map? policy subString) candidate map? policy subString <
            rank (lossesFirst device candidate map? policy subString) candidate map? policy
              subString) := by
  rw [rank_gainsFirst, rank_lossesFirst, ← lowest_eq_highest_iff]
  refine ⟨perm_gainsFirst .., perm_lossesFirst .., fun _ => rank_between _ _ _ _, ?_, ?_⟩
  · intro hsame entries hperm
    exact (rank_eq_of_lowest_eq_highest _ _ _ _ hperm hsame).trans
      (rank_eq_of_lowest_eq_highest _ _ _ _ (List.Perm.refl device.entries) hsame).symm
  · intro hauto hdiffer
    obtain ⟨hlow, hhigh⟩ :=
      foldl_addSaturating_between 0 (awarded device candidate map? policy subString)
    rw [penalty_of_not_isAutoGenerated hauto, subSaturating_zero, subSaturating_zero]
    exact Int32.lt_of_le_of_ne (Int32.le_trans hlow hhigh) hdiffer

end Rank

/-- A device with three properties. -/
def kiosk : Properties := ⟨[("model", "K1"), ("host", "desk"), ("serial", "7")]⟩

/-- The same device with its serial number in front. -/
def kioskReordered : Properties := ⟨[("serial", "7"), ("model", "K1"), ("host", "desk")]⟩

/-- A profile for another device of the model. -/
def kioskProfile : Properties := ⟨[("host", "desk"), ("serial", "8"), ("model", "K1")]⟩

/-- Points of which the model alone gives all that fit. -/
def modelDecides (host : Int32) : RankMap :=
  ⟨[⟨"model", 2147483647, 0, 0⟩, ⟨"host", host, 0, 0⟩, ⟨"serial", 0, -1, 0⟩]⟩

theorem rank_perm_kiosk :
    OrderFree (awarded kiosk kioskProfile (some (modelDecides 0)) {} false) ∧
      (∀ entries, entries.Perm kiosk.entries →
        rank ⟨entries⟩ kioskProfile (some (modelDecides 0)) {} false = 2147483646) ∧
      kioskProfile.isAutoGenerated = false ∧
      ¬ OrderFree (awarded kiosk kioskProfile (some (modelDecides 1)) {} false) ∧
      rank (gainsFirst kiosk kioskProfile (some (modelDecides 1)) {} false) kioskProfile
          (some (modelDecides 1)) {} false <
        rank (lossesFirst kiosk kioskProfile (some (modelDecides 1)) {} false) kioskProfile
          (some (modelDecides 1)) {} false := by
  have hfree : OrderFree (awarded kiosk kioskProfile (some (modelDecides 0)) {} false) := by
    decide +kernel
  have hcut : ¬ OrderFree (awarded kiosk kioskProfile (some (modelDecides 1)) {} false) := by
    decide +kernel
  have hauto : kioskProfile.isAutoGenerated = false := by decide +kernel
  have hrank : rank kiosk kioskProfile (some (modelDecides 0)) {} false = 2147483646 := by
    decide +kernel
  obtain ⟨-, -, -, hsame, -⟩ := rank_perm kiosk kioskProfile (some (modelDecides 0)) {} false
  obtain ⟨-, -, -, -, hdiffer⟩ := rank_perm kiosk kioskProfile (some (modelDecides 1)) {} false
  exact ⟨hfree, fun entries hperm => (hsame hfree entries hperm).trans hrank, hauto, hcut,
    hdiffer hauto hcut⟩

/-- Two orders of the same properties do not always rank alike. -/
theorem rank_kiosk_reordered :
    kioskReordered.entries.Perm kiosk.entries ∧
      rank kiosk kioskProfile (some (modelDecides 1)) {} false = 2147483646 ∧
      rank kioskReordered kioskProfile (some (modelDecides 1)) {} false = 2147483647 ∧
      rank kioskReordered kioskProfile (some (modelDecides 1)) {} false ≠
        rank kiosk kioskProfile (some (modelDecides 1)) {} false := by
  have hperm : kioskReordered.entries.Perm kiosk.entries := by decide
  have hlast : rank kiosk kioskProfile (some (modelDecides 1)) {} false = 2147483646 := by
    decide +kernel
  have hfirst : rank kioskReordered kioskProfile (some (modelDecides 1)) {} false = 2147483647 := by
    decide +kernel
  refine ⟨hperm, hlast, hfirst, ?_⟩
  rw [hlast, hfirst]
  decide

end IccProfile.Matching
