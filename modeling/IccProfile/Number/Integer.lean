/-!
# Integers in text

A whole number in decimal digits, with an optional sign, within the bounds that the
reader asks for.
-/

set_option autoImplicit false

namespace IccProfile.Number

/-- The value of a decimal digit. -/
def digit? (c : Char) : Option Nat :=
  if '0' ≤ c ∧ c ≤ '9' then some (c.toNat - 48) else none

/-- Whether a character is a decimal digit. -/
def isDigit (c : Char) : Bool := (digit? c).isSome

/-- The digits at the start of a text and what follows them. -/
def spanDigits (cs : List Char) : List Char × List Char :=
  (cs.takeWhile isDigit, cs.dropWhile isDigit)

/-- The number written by digits behind those of `n`, none at any other character. -/
def digitsFrom? (n : Nat) : List Char → Option Nat
  | [] => some n
  | c :: rest => (digit? c).bind fun d => digitsFrom? (n * 10 + d) rest

/-- The number written by at least one digit. -/
def natural? : List Char → Option Nat
  | [] => none
  | cs => digitsFrom? 0 cs

/-- The number written by digits behind an optional sign. -/
def integer? : List Char → Option Int
  | '+' :: rest => (natural? rest).map fun n => (n : Int)
  | '-' :: rest => (natural? rest).map fun n => -(n : Int)
  | cs => (natural? cs).map fun n => (n : Int)

/-- The integer of a text, when it is within bounds. -/
def integerWithin? (low high : Int) (cs : List Char) : Option Int :=
  (integer? cs).filter fun n => low ≤ n && n ≤ high

/-- An integer as a 32 bit number, when it is within its bounds. -/
def int32OfInt? (n : Int) : Option Int32 :=
  if -2147483648 ≤ n ∧ n ≤ 2147483647 then some (Int32.ofInt n) else none

/-- The 32 bit integer of a text. -/
def int32? (cs : List Char) : Option Int32 := (integer? cs).bind int32OfInt?

/-- The integer of a text that fits 64 bits. -/
def int64? (cs : List Char) : Option Int :=
  integerWithin? (-9223372036854775808) 9223372036854775807 cs

/-- A number below a bound, an optional plus sign before it. -/
def naturalBelow? (bound : Nat) : List Char → Option Nat
  | '+' :: rest => (natural? rest).filter (· < bound)
  | cs => (natural? cs).filter (· < bound)

end IccProfile.Number
