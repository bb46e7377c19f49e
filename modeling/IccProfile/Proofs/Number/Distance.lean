import IccProfile.Matching.Value

/-!
# The distance of two floating point numbers

Two numbers are near when half their difference has a small magnitude. Taken the other way
round the difference has another sign and the same magnitude (`abs_sub_comm`), and neither
packing a number nor dividing it makes its magnitude depend on its sign (`abs_unpack_pack`,
`abs_div`). So it does not matter which of the numbers comes first (`near_comm`).
-/

set_option autoImplicit false

namespace IccProfile

namespace Number

open Float.Model (Format UnpackedFloat)
open Float.Model.UnpackedFloat

variable (spec : Format)

/-! ## Rounding -/

theorem sign_eq_neg_comm (s t : Sign) : (s == -t) = (t == -s) := by
  cases s <;> cases t <;> rfl

theorem abs_zero_or_finite (s t : Sign) (m : Nat) (e : Int) :
    (if h : m = 0 then zero s else finite s m e (Nat.pos_of_ne_zero h)).abs =
      (if h : m = 0 then zero t else finite t m e (Nat.pos_of_ne_zero h)).abs := by
  by_cases hzero : m = 0
  · rw [dif_pos hzero, dif_pos hzero]
    rfl
  · rw [dif_neg hzero, dif_neg hzero]
    rfl

/-- A rounded number is zero or finite, whatever its sign. -/
theorem abs_roundWithAccuracy (s t : Sign) (m : Nat) (e : Int) (accuracy : Accuracy) :
    (roundWithAccuracy spec s m e accuracy).abs = (roundWithAccuracy spec t m e accuracy).abs :=
  abs_zero_or_finite s t _ _

theorem abs_round (s t : Sign) (m : Nat) (e : Int) :
    (UnpackedFloat.round spec s m e).abs = (UnpackedFloat.round spec t m e).abs :=
  abs_roundWithAccuracy spec s t _ _ _

/-- Opposite significands are rounded to one magnitude. -/
theorem abs_normalize_neg (m e : Int) (zero : Sign) :
    (UnpackedFloat.normalize spec (-m) e zero).abs =
      (UnpackedFloat.normalize spec m e zero).abs := by
  unfold UnpackedFloat.normalize
  rcases Int.lt_trichotomy m 0 with hm | rfl | hm
  · have hneg : compare (-m) 0 = .gt := Int.compare_eq_gt.mpr (by omega)
    rw [Int.compare_eq_lt.mpr hm, hneg]
    exact abs_round spec _ _ _ _
  · rfl
  · have hneg : compare (-m) 0 = .lt := Int.compare_eq_lt.mpr (by omega)
    rw [Int.compare_eq_gt.mpr hm, hneg]
    simp only [Int.neg_neg]
    exact abs_round spec _ _ _ _

/-! ## Arithmetic -/

/-- Finite numbers are subtracted at the smaller exponent. -/
theorem sub_finite {m n : Nat} {e f : Int} (s t : Sign) (hm : 0 < m) (hn : 0 < n) :
    sub spec (.finite s m e hm) (.finite t n f hn) =
      UnpackedFloat.normalize spec
        (s.apply (decreaseExponent m e (min e f)).1 - t.apply (decreaseExponent n f (min e f)).1)
        (min e f) .positive :=
  rfl

/-- The difference the other way round has the same magnitude. -/
theorem abs_sub_comm (a b : UnpackedFloat) : (sub spec a b).abs = (sub spec b a).abs := by
  cases a with
  | notANumber => cases b <;> rfl
  | infinity s =>
      cases b with
      | infinity t =>
          change (if s == -t then infinity s else notANumber).abs =
            (if t == -s then infinity t else notANumber).abs
          rw [sign_eq_neg_comm s t]
          split <;> rfl
      | _ => rfl
  | zero s =>
      cases b with
      | zero t =>
          change (if s == -t then zero s else zero .positive).abs =
            (if t == -s then zero t else zero .positive).abs
          rw [sign_eq_neg_comm s t]
          split <;> rfl
      | _ => rfl
  | finite s m e hm =>
      cases b with
      | finite t n f hn =>
          rw [sub_finite, sub_finite, Int.min_comm f e, ← abs_normalize_neg, Int.neg_sub]
      | _ => rfl

/-- The quotients of numbers of one magnitude have one magnitude. -/
theorem abs_div {a b : UnpackedFloat} (h : a.abs = b.abs) (c : UnpackedFloat) :
    (div spec a c).abs = (div spec b c).abs := by
  have hsign : ∀ u : UnpackedFloat, (div spec u c).abs = (div spec u.abs c).abs := by
    intro u
    cases u <;> cases c
    case finite.finite => exact abs_roundWithAccuracy spec _ _ _ _ _
    all_goals rfl
  rw [hsign a, h, ← hsign b]

/-! ## Packed numbers -/

theorem finite_congr {m n : Nat} {e f : Int} {hm : 0 < m} {hn : 0 < n} (s : Sign) (hmn : m = n)
    (hef : e = f) : UnpackedFloat.finite s m e hm = .finite s n f hn := by
  subst hmn hef
  rfl

/-- The magnitude of what is unpacked does not depend on the sign. -/
theorem abs_unpack_congr {a b : BitVec spec.numBits}
    (hmantissa : unpackMantissa a = unpackMantissa b)
    (hexponent : unpackExponent a = unpackExponent b) :
    (unpack spec a).abs = (unpack spec b).abs := by
  unfold unpack
  dsimp only
  by_cases hhigh : unpackExponent b = -1#_
  · rw [if_pos hhigh, if_pos (hexponent.trans hhigh)]
    by_cases hzero : unpackMantissa b = 0#_
    · rw [if_pos hzero, if_pos (hmantissa.trans hzero)]
      rfl
    · rw [if_neg hzero, if_neg (hmantissa ▸ hzero)]
  · rw [if_neg hhigh, if_neg (hexponent ▸ hhigh)]
    by_cases hlow : unpackExponent b = 0#_
    · rw [if_pos hlow, if_pos (hexponent.trans hlow)]
      by_cases hzero : unpackMantissa b = 0#_
      · rw [dif_pos hzero, dif_pos (hmantissa.trans hzero)]
        rfl
      · rw [dif_neg hzero, dif_neg (hmantissa ▸ hzero)]
        exact finite_congr _ (by rw [hmantissa]) (by rw [hexponent])
    · rw [if_neg hlow, if_neg (hexponent ▸ hlow)]
      exact finite_congr _ (by rw [hmantissa]) (by rw [hexponent])

theorem abs_unpack_packComponents (s t : Sign) (exponent : BitVec spec.exponentBits)
    (mantissa : BitVec spec.mantissaBitsWithoutImplicit) :
    (unpack spec (packComponents spec s exponent mantissa)).abs =
      (unpack spec (packComponents spec t exponent mantissa)).abs := by
  apply abs_unpack_congr
  · rw [unpackMantissa_packComponents, unpackMantissa_packComponents]
  · rw [unpackExponent_packComponents, unpackExponent_packComponents]

/-- The sign has no part in the choice of the form of a finite number. -/
theorem exists_pack_finite (m : Nat) (e : Int) (hm : 0 < m) :
    ∃ exponent mantissa, ∀ s,
      pack spec (.finite s m e hm) = packComponents spec s exponent mantissa := by
  by_cases hlarge :
      2 ^ spec.exponentBits ≤ (e + spec.exponentBias + spec.mantissaBitsWithoutImplicit).toNat + 1
  · exact ⟨_, _, fun s => if_pos hlarge⟩
  · by_cases hnormal : m.log2 + 1 = spec.mantissaBits
    · exact ⟨_, _, fun s => (if_neg hlarge).trans (if_pos hnormal)⟩
    · exact ⟨_, _, fun s => (if_neg hlarge).trans (if_neg hnormal)⟩

theorem abs_unpack_pack_abs (a : UnpackedFloat) :
    (unpack spec (pack spec a)).abs = (unpack spec (pack spec a.abs)).abs := by
  have hsign := abs_unpack_packComponents spec
  cases a with
  | notANumber => rfl
  | infinity s => exact hsign s .positive _ _
  | zero s => exact hsign s .positive _ _
  | finite s m e hm =>
      obtain ⟨exponent, mantissa, hpack⟩ := exists_pack_finite spec m e hm
      change (unpack spec (pack spec (.finite s m e hm))).abs =
        (unpack spec (pack spec (.finite .positive m e hm))).abs
      rw [hpack s, hpack .positive]
      exact hsign s .positive exponent mantissa

/-- Numbers of one magnitude have one magnitude after they were packed. -/
theorem abs_unpack_pack {a b : UnpackedFloat} (h : a.abs = b.abs) :
    (unpack spec (pack spec a)).abs = (unpack spec (pack spec b)).abs := by
  rw [abs_unpack_pack_abs, h, ← abs_unpack_pack_abs]

/-! ## Distances -/

/-- Half the difference has the same magnitude the other way round. -/
theorem abs_half_sub_comm (x y : Float) : ((x - y) / 2.0).abs = ((y - x) / 2.0).abs := by
  have hdifference := abs_sub_comm .binary64 x.toModel.unpack y.toModel.unpack
  have hpacked := abs_unpack_pack .binary64 hdifference
  have hhalf := abs_div .binary64 hpacked (2.0 : Float).toModel.unpack
  exact congrArg (fun u => Float.ofModel (.pack u)) (abs_unpack_pack .binary64 hhalf)

end Number

/-- Of two numbers that are near it does not matter which comes first. -/
theorem Matching.near_comm (x y delta : Float) : near x y delta = near y x delta := by
  rw [near, near, Number.abs_half_sub_comm]

end IccProfile
