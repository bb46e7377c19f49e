import IccProfile.Number.Integer
import IccProfile.Number.Rounded

/-!
# Floating point numbers in text

A number with an optional sign, fraction and exponent, or the words for infinity
and for no number, in any case. At least one digit stands before or behind the
point. The value is the nearest floating point number.
-/

set_option autoImplicit false

namespace IccProfile.Number

/-- The number written by digits, zero for none. -/
def digitsValue (cs : List Char) : Nat := (digitsFrom? 0 cs).getD 0

/-- The exponent at the end of a number, zero when there is none. -/
def exponent? : List Char → Option Int
  | [] => some 0
  | c :: rest => if c = 'e' ∨ c = 'E' then integer? rest else none

/-- The value of digits, a point and an exponent without a sign. -/
def unsigned? (cs : List Char) : Option Float :=
  let (whole, rest) := spanDigits cs
  let (fraction, rest) :=
    match rest with
    | '.' :: more => spanDigits more
    | _ => ([], rest)
  if whole.isEmpty && fraction.isEmpty then none
  else
    (exponent? rest).map fun e =>
      nearestDecimal (digitsValue (whole ++ fraction)) (e - fraction.length)

/-- The words for values that have no digits. -/
def word? (cs : List Char) : Option Float :=
  let lower := cs.map Char.toLower
  if lower = "inf".toList ∨ lower = "infinity".toList then some (1.0 / 0.0)
  else if lower = "nan".toList then some (0.0 / 0.0)
  else none

/-- The floating point number of a text. -/
def float? : List Char → Option Float
  | '+' :: rest => (word? rest).or (unsigned? rest)
  | '-' :: rest => ((word? rest).or (unsigned? rest)).map fun x => -x
  | cs => (word? cs).or (unsigned? cs)

end IccProfile.Number
