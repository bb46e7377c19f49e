import IccProfile.Json.Printer
import Mathlib.Data.Nat.Digits.Lemmas

/-!
# Integers in JSON texts

The digits of an integer read back as it. They are read up to the first character behind them
that cannot go on a number (`number?_renderInt`), and evaluated they give the integer when it
fits 64 bits (`numberValue?_numberText`).
-/

set_option autoImplicit false

namespace IccProfile

variable {n : Nat} {c : Char} {rest : List Char}

/-! ## Digits -/

namespace Number

theorem digit?_digitChar {d : Nat} (h : d < 10) : digit? d.digitChar = some d := by
  have hdigits : ∀ d < 10, digit? (Nat.digitChar d) = some d := by decide
  exact hdigits d h

theorem isDigit_digitChar {d : Nat} (h : d < 10) : isDigit d.digitChar = true := by
  rw [isDigit, digit?_digitChar h]
  rfl

/-- The digits of a text end where no digit follows. -/
theorem spanDigits_append {digits : List Char} (hdigits : ∀ d ∈ digits, isDigit d = true)
    (hrest : ∀ c ∈ rest.head?, isDigit c = false) :
    spanDigits (digits ++ rest) = (digits, rest) := by
  rw [spanDigits, List.takeWhile_append_of_pos hdigits, List.dropWhile_append_of_pos hdigits]
  cases rest with
  | nil => simp
  | cons c more =>
      have hc : isDigit c = false := hrest c rfl
      simp [hc]

end Number

namespace Json

/-! ## Written integers -/

theorem isDigit_of_mem_decimalDigits (h : c ∈ decimalDigits n) : Number.isDigit c = true := by
  induction n using Nat.strongRecOn generalizing c with
  | ind n ih =>
      rw [decimalDigits, Nat.toDigits_eq_if (by decide)] at h
      split at h
      · next hlt =>
          obtain rfl := List.mem_singleton.mp h
          exact Number.isDigit_digitChar hlt
      · next hge =>
          rcases List.mem_append.mp h with hfront | hlast
          · exact ih (n / 10) (by omega) hfront
          · obtain rfl := List.mem_singleton.mp hlast
            exact Number.isDigit_digitChar (Nat.mod_lt n (by decide))

/-- The first digit of a number is zero only when the number is. -/
theorem decimalDigits_cases (n : Nat) :
    n = 0 ∧ decimalDigits n = ['0'] ∨
      ∃ first more, decimalDigits n = first :: more ∧ first ≠ '0' := by
  induction n using Nat.strongRecOn with
  | ind n ih =>
      rw [decimalDigits, Nat.toDigits_eq_if (by decide)]
      split
      · next hlt =>
          by_cases hzero : n = 0
          · subst hzero
            exact .inl ⟨rfl, rfl⟩
          · have hdigits : ∀ d < 10, d ≠ 0 → Nat.digitChar d ≠ '0' := by decide
            exact .inr ⟨n.digitChar, [], rfl, hdigits n hlt hzero⟩
      · next hge =>
          rcases ih (n / 10) (by omega) with ⟨hzero, -⟩ | ⟨first, more, hfront, hfirst⟩
          · omega
          · refine .inr ⟨first, more ++ [(n % 10).digitChar], ?_, hfirst⟩
            rw [decimalDigits] at hfront
            rw [hfront, List.cons_append]

/-- The parts of an integer as it is written. -/
def numberText (n : Int) : NumberText where
  negative := n < 0
  whole := decimalDigits n.natAbs
  fraction? := none
  exponent? := none

/-- No number goes on with what follows. -/
def EndsNumber (rest : List Char) : Prop :=
  ∀ c ∈ rest.head?, Number.isDigit c = false ∧ c ≠ '.' ∧ c ≠ 'e' ∧ c ≠ 'E'

theorem endsNumber_nil : EndsNumber [] := by
  intro c hc
  simp at hc

theorem wholeDigits?_append (hrest : EndsNumber rest) :
    wholeDigits? (decimalDigits n ++ rest) = some (decimalDigits n, rest) := by
  have hspan : Number.spanDigits (decimalDigits n ++ rest) = (decimalDigits n, rest) :=
    Number.spanDigits_append (fun _ => isDigit_of_mem_decimalDigits) fun c hc => (hrest c hc).1
  rcases decimalDigits_cases n with ⟨-, hzero⟩ | ⟨first, more, hdigits, hfirst⟩
  · rw [hzero]
    cases rest with
    | nil => rfl
    | cons c more =>
        have hc : Number.isDigit c = false := (hrest c rfl).1
        simp [wholeDigits?, hc]
  · rw [hdigits, List.cons_append] at hspan ⊢
    rw [wholeDigits?, hspan]
    · rfl
    · intro other heq
      exact hfirst (List.cons.inj heq).1

theorem fractionDigits?_of_endsNumber (hrest : EndsNumber rest) :
    fractionDigits? rest = some (none, rest) := by
  cases rest with
  | nil => rfl
  | cons c more =>
      rw [fractionDigits?]
      intro other heq
      exact (hrest c rfl).2.1 (List.cons.inj heq).1

theorem exponentDigits?_of_endsNumber (hrest : EndsNumber rest) :
    exponentDigits? rest = some (none, rest) := by
  cases rest with
  | nil => rfl
  | cons c more =>
      have hc := (hrest c rfl).2.2
      simp [exponentDigits?, hc]

theorem head_decimalDigits_ne_minus (n : Nat) (rest more : List Char) :
    decimalDigits n ++ rest ≠ '-' :: more := by
  intro hminus
  cases hdigits : decimalDigits n with
  | nil => exact Nat.toDigits_ne_nil hdigits
  | cons first tail =>
      have hfirst : Number.isDigit first = true :=
        isDigit_of_mem_decimalDigits (by rw [hdigits]; exact List.mem_cons_self)
      rw [hdigits, List.cons_append] at hminus
      rw [(List.cons.inj hminus).1] at hfirst
      exact absurd hfirst (by decide)

/-- An integer reads back up to what follows it. -/
theorem number?_renderInt (n : Int) (hrest : EndsNumber rest) :
    number? (renderInt n ++ rest) = some (numberText n, rest) := by
  have hwhole := wholeDigits?_append (n := n.natAbs) hrest
  have hfraction := fractionDigits?_of_endsNumber hrest
  have hexponent := exponentDigits?_of_endsNumber hrest
  rw [renderInt, numberText]
  split
  · next hneg =>
      simp [number?, hwhole, hfraction, hexponent, hneg]
  · next hpos =>
      rw [number?]
      · simp [hwhole, hfraction, hexponent, hpos]
      · exact head_decimalDigits_ne_minus n.natAbs rest

/-! ## Evaluated integers -/

/-- Digits below the bound are gathered one by one. -/
theorem gatherWhole_decimalDigits (h : n < significandBound) :
    gatherWhole (decimalDigits n) = (⟨n, 0⟩, false) := by
  induction n using Nat.strongRecOn with
  | ind n ih =>
      rw [decimalDigits, Nat.toDigits_eq_if (by decide)]
      split
      · next hlt => simp [gatherWhole, Number.digit?_digitChar hlt, h]
      · next hge =>
          have hfront := ih (n / 10) (by omega) (by omega)
          have hmod : n % 10 < 10 := Nat.mod_lt n (by decide)
          have hjoin : n / 10 * 10 + n % 10 = n := Nat.div_add_mod' n 10
          rw [gatherWhole, decimalDigits] at hfront
          rw [gatherWhole, List.foldl_append, hfront]
          simp [Number.digit?_digitChar hmod, hjoin, h]

/-- The integers that are not read as floating point numbers. -/
def FitsWord (n : Int) : Prop := -0x8000000000000000 ≤ n ∧ n < 0x10000000000000000

theorem numberValue?_numberText {n : Int} (h : FitsWord n) :
    numberValue? (numberText n) = some (.int n) := by
  obtain ⟨hlow, hhigh⟩ := h
  have hgather := gatherWhole_decimalDigits (n := n.natAbs) (by rw [significandBound]; omega)
  simp only [numberValue?, numberText, hgather]
  by_cases hneg : n < 0
  · have hzero : ¬ (n.natAbs = 0 ∨ n.natAbs > 0x8000000000000000) := by omega
    have hvalue : -(n.natAbs : Int) = n := by omega
    rw [decide_eq_true hneg, if_neg Bool.false_ne_true, if_neg (by decide), if_neg hzero, hvalue]
  · have hvalue : (n.natAbs : Int) = n := by omega
    rw [decide_eq_false hneg, if_neg Bool.false_ne_true, if_pos (by decide), hvalue]

end Json

end IccProfile
