/-!
# Rounding to binary floating point

The floating point number nearest to a quotient of natural numbers, ties to the
even significand. The rounding is done in whole numbers, so it is exact for every
quotient.
-/

set_option autoImplicit false

namespace IccProfile.Number

/-- A quotient rounded to the nearest whole number, ties to the even one. -/
def roundQuotient (num den : Nat) : Nat :=
  let q := num / den
  let twice := 2 * (num % den)
  if twice < den then q
  else if twice > den then q + 1
  else if q % 2 = 0 then q else q + 1

/-- The first of the 53 bits of a significand, which is not stored. -/
def hiddenBit : Nat := 0x10000000000000

/-- The exponent of the last significand bit for a quotient: the one that leaves 53 bits,
but not below that of the smallest number. -/
def lastBitExponent (num den : Nat) : Int :=
  let e : Int := (num.log2 : Int) - (den.log2 : Int) - 53
  let fits := if e < 0 then num * Nat.pow 2 (-e).toNat < 2 * hiddenBit * den
    else num < 2 * hiddenBit * (den * Nat.pow 2 e.toNat)
  max (if fits then e else e + 1) (-1074)

/-- The bits of infinity. -/
def infinityBits : Nat := 0x7ff0000000000000

/-- The bits of the floating point number nearest to a quotient. -/
def nearestBits (num den : Nat) : Nat :=
  if num = 0 then 0
  else
    let e := lastBitExponent num den
    let significand :=
      if e < 0 then roundQuotient (num * Nat.pow 2 (-e).toNat) den
      else roundQuotient num (den * Nat.pow 2 e.toNat)
    min infinityBits ((e + 1074).toNat * hiddenBit + significand)

/-- The floating point number nearest to a quotient. -/
def nearest (num den : Nat) : Float := Float.ofBits (UInt64.ofNat (nearestBits num den))

/-- The number of decimal digits of a natural number. -/
def digitCount (n : Nat) : Nat := (Nat.toDigits 10 n).length

/-- The floating point number nearest to `digits * 10 ^ exponent`. Exponents beyond any finite
or any positive number are cut off before powers are taken. -/
def nearestDecimal (digits : Nat) (exponent : Int) : Float :=
  if digits = 0 then 0.0
  else
    let magnitude : Int := exponent + digitCount digits
    if magnitude > 400 then Float.ofBits (UInt64.ofNat infinityBits)
    else if magnitude < -400 then 0.0
    else if exponent < 0 then nearest digits (Nat.pow 10 (-exponent).toNat)
    else nearest (digits * Nat.pow 10 exponent.toNat) 1

end IccProfile.Number
