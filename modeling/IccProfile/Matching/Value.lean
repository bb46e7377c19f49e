import IccProfile.Number.Decimal
import IccProfile.Text.Blank

/-!
# Comparing property values

A value may be a list with commas between its pieces; two values match when a piece of
one matches a piece of the other. Pieces match as texts, as integers, or as floating
point numbers that lie close together.
-/

set_option autoImplicit false

namespace IccProfile.Matching

/-- Whether half the difference of two numbers is below a bound. -/
def near (x y delta : Float) : Bool := ((x - y) / 2.0).abs < delta

/-- Whether two pieces are equal as integers, or close as floating point numbers when they are
not both integers. -/
def sameNumber (left right : List Char) (delta : Float) : Bool :=
  match Number.int64? left, Number.int64? right with
  | some m, some n => m = n
  | _, _ =>
    match Number.float? left, Number.float? right with
    | some x, some y => near x y delta
    | _, _ => false

/-- Whether one of two texts that are not empty stands in the other. -/
def overlap (left right : List Char) : Bool :=
  left ≠ [] && right ≠ [] && (Text.contains left right || Text.contains right left)

/-- Whether two pieces match. -/
def pieceMatches (delta : Float) (subString : Bool) (left right : List Char) : Bool :=
  left = right || (subString && overlap left right) || sameNumber left right delta

/-- The pieces of a value without the white space around them. -/
def valuePieces (value : String) : List (List Char) :=
  (Text.pieces ',' value.toList).map Text.trim

/-- Whether two values match. -/
def valueMatches (value pattern : String) (delta : Float) (subString : Bool) : Bool :=
  (valuePieces value).any fun left =>
    (valuePieces pattern).any fun right => pieceMatches delta subString left right

end IccProfile.Matching
