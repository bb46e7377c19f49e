import IccProfile.Json.Document
import IccProfile.Number.Rounded

/-!
# JSON values

Values with their numbers evaluated. The members of an object keep the order in
which their names first occur, and a repeated name keeps the last value. A number
without fraction and exponent that fits 64 bits is an integer, every other number
is a floating point number.
-/

set_option autoImplicit false

namespace IccProfile

/-- A JSON value. -/
inductive Json
  | null
  | bool (b : Bool)
  | int (n : Int)
  | float (x : Float)
  | string (s : String)
  | array (items : List Json)
  | object (members : List (String × Json))
deriving Inhabited

namespace Json

/-! ## Strings -/

/-- The characters of a string, none when a surrogate has no partner. -/
def resolve? : List StringPart → Option (List Char)
  | [] => some []
  | .char c :: rest => (resolve? rest).map (c :: ·)
  | .unit u :: rest =>
    if 0xDC00 ≤ u ∧ u < 0xE000 then none
    else if 0xD800 ≤ u ∧ u < 0xDC00 then
      match rest with
      | .unit v :: rest =>
        if 0xDC00 ≤ v ∧ v < 0xE000 then
          (resolve? rest).map (Char.ofNat (0x10000 + (u - 0xD800) * 0x400 + (v - 0xDC00)) :: ·)
        else none
      | _ => none
    else (resolve? rest).map (Char.ofNat u :: ·)

/-- The text of a string, none when a surrogate has no partner. -/
def text? (parts : List StringPart) : Option String := (resolve? parts).map String.ofList

/-! ## Numbers -/

/-- The bound of significands: they fit 64 bits. -/
def significandBound : Nat := 0x10000000000000000

/-- A significand below the bound and a power of ten that digits are gathered into. -/
structure Gathered where
  significand : Nat
  exponent : Int

/-- Gathers whole digits. From the first digit on that does not fit, each raises the exponent. -/
def gatherWhole (digits : List Char) : Gathered × Bool :=
  digits.foldl
    (fun (g, full) c =>
      let next := g.significand * 10 + (Number.digit? c).getD 0
      if full || next ≥ significandBound then (⟨g.significand, g.exponent + 1⟩, true)
      else (⟨next, g.exponent⟩, false))
    (⟨0, 0⟩, false)

/-- Gathers the digits behind the point. From the first digit on that does not fit, all are
left out; the digits fill a significand from which whole digits were left out as well. -/
def gatherFraction (start : Gathered) (digits : List Char) : Gathered :=
  (digits.foldl
    (fun (g, full) c =>
      let next := g.significand * 10 + (Number.digit? c).getD 0
      if full || next ≥ significandBound then (g, true)
      else (⟨next, g.exponent - 1⟩, false))
    (start, false)).1

/-- The power of ten `10 ^ n`, rounded. -/
def powerOfTen (n : Nat) : Float := Number.nearest (Nat.pow 10 n) 1

/-- Whether a number is infinite. -/
def isInfinite (x : Float) : Bool := x.abs.toBits.toNat = Number.infinityBits

/-- A significand scaled by a power of ten, in steps that stay in the range of powers. None when
the result is infinite. The first argument bounds the number of steps. -/
def scale? : Nat → Float → Int → Option Float
  | 0, x, _ => some x
  | steps + 1, x, exponent =>
    if exponent.natAbs ≤ 308 then
      if 0 ≤ exponent then
        let y := x * powerOfTen exponent.natAbs
        if isInfinite y then none else some y
      else some (x / powerOfTen exponent.natAbs)
    else if x == 0.0 then some x
    else if 0 ≤ exponent then none
    else scale? steps (x / powerOfTen 308) (exponent + 308)

/-- The floating point number of gathered digits. The step bound suffices because a number
below `2 ^ 64` is zero after three steps. -/
def floatOf? (negative : Bool) (g : Gathered) : Option Float :=
  (scale? 6 (Number.nearest g.significand 1) g.exponent).map fun x => if negative then -x else x

/-- The bounds of a 32 bit number with a sign. -/
def clamp32 (n : Int) : Int := max (-2147483648) (min 2147483647 n)

/-- Applies a written exponent. One that does not fit 32 bits gives zero or is out of range. -/
def applyExponent? (negative : Bool) (g : Gathered) (minus : Bool) (digits : List Char) :
    Option Float :=
  let e := (Number.digitsFrom? 0 digits).getD 0
  if e > 2147483647 then
    if g.significand ≠ 0 ∧ !minus then none
    else some (if negative then -0.0 else 0.0)
  else
    floatOf? negative ⟨g.significand, clamp32 (if minus then g.exponent - e else g.exponent + e)⟩

/-- The value of a number, none when it is out of range. -/
def numberValue? (t : NumberText) : Option Json :=
  let (g, full) := gatherWhole t.whole
  match t.fraction?, t.exponent? with
  | none, none =>
    if full then (floatOf? t.negative g).map .float
    else if !t.negative then some (.int g.significand)
    else if g.significand = 0 ∨ g.significand > 0x8000000000000000 then
      some (.float (-(Number.nearest g.significand 1)))
    else some (.int (-(g.significand : Int)))
  | fraction?, exponent? =>
    let g := gatherFraction g (fraction?.getD [])
    match exponent? with
    | none => (floatOf? t.negative g).map .float
    | some (minus, digits) => (applyExponent? t.negative g minus digits).map .float

/-! ## Values -/

/-- Sets a member: in place when the name is there, else at the end. -/
def setMember (name : String) (value : Json) : List (String × Json) → List (String × Json)
  | [] => [(name, value)]
  | (n, v) :: rest =>
    if n = name then (name, value) :: rest else (n, v) :: setMember name value rest

/-- The members of an object read one after the other. -/
def collect (members : List (String × Json)) : List (String × Json) :=
  members.foldl (fun found m => setMember m.1 m.2 found) []

mutual

/-- The value of a document with at most `depth` nested arrays and objects. -/
def ofDocument? (depth : Nat) : Document → Option Json
  | .null => some .null
  | .bool b => some (.bool b)
  | .number text => numberValue? text
  | .string parts => (text? parts).map .string
  | .array items =>
    match depth with
    | 0 => none
    | depth + 1 => (itemValues? depth items).map .array
  | .object members =>
    match depth with
    | 0 => none
    | depth + 1 => (memberValues? depth members).map fun ms => .object (collect ms)

/-- The values of the items of an array. -/
def itemValues? (depth : Nat) : List Document → Option (List Json)
  | [] => some []
  | item :: rest => do
    let item ← ofDocument? depth item
    let rest ← itemValues? depth rest
    return item :: rest

/-- The values of the members of an object. -/
def memberValues? (depth : Nat) :
    List (List StringPart × Document) → Option (List (String × Json))
  | [] => some []
  | (name, item) :: rest => do
    let name ← text? name
    let item ← ofDocument? depth item
    let rest ← memberValues? depth rest
    return (name, item) :: rest

end

/-- The nesting that a text may have. -/
def maxDepth : Nat := 127

/-- The value of a text. -/
def ofText? (text : String) : Option Json := do
  let document ← Document.ofText? text
  ofDocument? maxDepth document

/-- The member of a name, none for anything but an object with that name. -/
def get? (name : String) : Json → Option Json
  | .object members => members.lookup name
  | _ => none

/-- The value behind a path of names. -/
def getPath? (path : List String) (value : Json) : Option Json :=
  path.foldlM (fun value name => value.get? name) value

/-- The items of an array. -/
def items? : Json → Option (List Json)
  | .array items => some items
  | _ => none

/-- The members of an object. -/
def members? : Json → Option (List (String × Json))
  | .object members => some members
  | _ => none

/-- Objects around a value, one for each name of a path, the first name outermost. -/
def wrap (path : List String) (value : Json) : Json :=
  path.foldr (fun name inner => .object [(name, inner)]) value

end Json

end IccProfile
