import IccProfile.Number.Rounded

/-!
# Shortest decimals

The decimal with the fewest digits that reads back as a given floating point
number; of two such decimals the nearer one, of two equally near the one that ends
in an even digit.
-/

set_option autoImplicit false

namespace IccProfile.Number

/-- A positive number as a whole significand and a power of two. -/
structure Binary where
  significand : Nat
  exponent : Int

/-- The parts of the bits of a finite number, its sign left out. -/
def Binary.ofBits (bits : Nat) : Binary :=
  let field : Nat := bits / hiddenBit % 2048
  let fraction : Nat := bits % hiddenBit
  if field = 0 then ⟨fraction, -1074⟩ else ⟨hiddenBit + fraction, (field : Int) - 1075⟩

/-- A decimal: whole digits and a power of ten. -/
structure Decimal where
  digits : Nat
  exponent : Int
deriving DecidableEq, Inhabited

/-- A power of a base with an exponent of either sign, as a quotient. -/
def powQuotient (base : Nat) (e : Int) : Nat × Nat :=
  if e < 0 then (1, Nat.pow base (-e).toNat) else (Nat.pow base e.toNat, 1)

/-- The exponent of the first digit of a positive quotient. -/
def firstDigitExponent (num den : Nat) : Int :=
  let e : Int := (digitCount num : Int) - digitCount den
  let (p, q) := powQuotient 10 e
  if p * den ≤ num * q then e else e - 1

/-- The decimal nearest to a number among those on a power of ten that read back as it. -/
def onGrid? (b : Binary) (exponent : Int) : Option Decimal :=
  let (p, q) := powQuotient 2 (b.exponent - 2)
  let (g, h) := powQuotient 10 exponent
  let unit := g * q
  let value := 4 * b.significand * p * h
  let low := (4 * b.significand - if b.significand = hiddenBit ∧ b.exponent > -1074 then 1 else 2)
    * p * h
  let high := (4 * b.significand + 2) * p * h
  let inside := fun (c : Nat) =>
    if b.significand % 2 = 0 then low ≤ c * unit && c * unit ≤ high
    else low < c * unit && c * unit < high
  let below := value / unit
  let above := below + 1
  let nearer := 2 * (value % unit)
  let order :=
    if nearer < unit || (nearer = unit && below % 2 = 0) then [below, above]
    else [above, below]
  (order.find? fun c => c ≠ 0 && inside c).map fun c => ⟨c, exponent⟩

/-- A decimal without zeros at the end of its digits. -/
def Decimal.trimmed (d : Decimal) : Decimal :=
  (List.range 20).foldl
    (fun d _ => if d.digits ≠ 0 ∧ d.digits % 10 = 0 then ⟨d.digits / 10, d.exponent + 1⟩ else d) d

/-- The shortest decimal of the bits of a positive finite number. -/
def shortest (bits : Nat) : Decimal :=
  let b := Binary.ofBits bits
  let (p, q) := powQuotient 2 b.exponent
  let first := firstDigitExponent (b.significand * p) q
  (((List.range 17).findSome? fun (n : Nat) => onGrid? b (first - n)).getD ⟨0, 0⟩).trimmed

end IccProfile.Number
