import IccProfile.Json.Basic
import IccProfile.Number.Shortest
import IccProfile.Bytes

/-!
# Writing JSON

Two layouts of one value: without any space, and with one item per line, indented by
two blanks. Characters outside ASCII are written as they are. Floating point numbers
have the fewest digits that read back.
-/

set_option autoImplicit false

namespace IccProfile.Json

/-- The decimal digits of a number. -/
def decimalDigits (n : Nat) : List Char := Nat.toDigits 10 n

/-- An integer in decimal. -/
def renderInt (n : Int) : List Char :=
  if n < 0 then '-' :: decimalDigits n.natAbs else decimalDigits n.natAbs

/-- A positive decimal: in plain digits with at least one behind the point when its first digit
is at a power from `10 ^ -5` to `10 ^ 15`, else with an exponent that shows its sign. -/
def renderDecimal (d : Number.Decimal) : List Char :=
  let digits := decimalDigits d.digits
  let first : Int := d.exponent + digits.length - 1
  if -5 ≤ first ∧ first < 16 then
    if 0 ≤ d.exponent then digits ++ List.replicate d.exponent.toNat '0' ++ ['.', '0']
    else if 0 ≤ first then
      digits.take (first.toNat + 1) ++ '.' :: digits.drop (first.toNat + 1)
    else '0' :: '.' :: List.replicate (-first - 1).toNat '0' ++ digits
  else
    let fraction := match digits.drop 1 with
      | [] => []
      | more => '.' :: more
    digits.take 1 ++ fraction ++ 'e' :: (if first < 0 then '-' else '+')
      :: decimalDigits first.natAbs

/-- A finite floating point number. -/
def renderFloat (x : Float) : List Char :=
  let bits := x.toBits.toNat
  let magnitude := bits % 0x8000000000000000
  let sign := if bits ≥ 0x8000000000000000 then ['-'] else []
  if magnitude = 0 then sign ++ ['0', '.', '0']
  else sign ++ renderDecimal (Number.shortest magnitude)

/-- A character inside a string: quotes, backslashes and control characters are escaped. -/
def renderChar (c : Char) : List Char :=
  match c with
  | '"' => ['\\', '"']
  | '\\' => ['\\', '\\']
  | '\x08' => ['\\', 'b']
  | '\t' => ['\\', 't']
  | '\n' => ['\\', 'n']
  | '\x0c' => ['\\', 'f']
  | '\r' => ['\\', 'r']
  | c =>
    if c.toNat < 0x20 then
      ['\\', 'u', '0', '0', Bytes.hexDigit (c.toNat / 16), Bytes.hexDigit (c.toNat % 16)]
    else [c]

/-- A string between quotes. -/
def renderString (s : String) : List Char := '"' :: s.toList.flatMap renderChar ++ ['"']

/-- A value that holds no other value, and the two empty containers. -/
def renderLeaf : Json → List Char
  | .null => "null".toList
  | .bool true => "true".toList
  | .bool false => "false".toList
  | .int n => renderInt n
  | .float x => renderFloat x
  | .string s => renderString s
  | .array _ => ['[', ']']
  | .object _ => ['\x7b', '\x7d']

mutual

/-- A value without any space. -/
def render : Json → List Char
  | .array (item :: items) => '[' :: render item ++ renderItems items
  | .object ((name, item) :: members) =>
    '\x7b' :: renderString name ++ ':' :: render item ++ renderMembers members
  | leaf => renderLeaf leaf

/-- The further items of an array and its closing bracket. -/
def renderItems : List Json → List Char
  | [] => [']']
  | item :: items => ',' :: render item ++ renderItems items

/-- The further members of an object and its closing brace. -/
def renderMembers : List (String × Json) → List Char
  | [] => ['\x7d']
  | (name, item) :: members =>
    ',' :: renderString name ++ ':' :: render item ++ renderMembers members

end

/-- The start of a line at a depth. -/
def newLine (depth : Nat) : List Char := '\n' :: List.replicate (2 * depth) ' '

mutual

/-- A value with one item per line; the lines of its items start at the depth above the given
one. -/
def renderPretty (depth : Nat) : Json → List Char
  | .array (item :: items) =>
    '[' :: newLine (depth + 1) ++ renderPretty (depth + 1) item ++ prettyItems depth items
  | .object ((name, item) :: members) =>
    '\x7b' :: newLine (depth + 1) ++ renderString name ++ ':' :: ' '
      :: renderPretty (depth + 1) item ++ prettyMembers depth members
  | leaf => renderLeaf leaf

/-- The further items of an array and its closing bracket. -/
def prettyItems (depth : Nat) : List Json → List Char
  | [] => newLine depth ++ [']']
  | item :: items =>
    ',' :: newLine (depth + 1) ++ renderPretty (depth + 1) item ++ prettyItems depth items

/-- The further members of an object and its closing brace. -/
def prettyMembers (depth : Nat) : List (String × Json) → List Char
  | [] => newLine depth ++ ['\x7d']
  | (name, item) :: members =>
    ',' :: newLine (depth + 1) ++ renderString name ++ ':' :: ' '
      :: renderPretty (depth + 1) item ++ prettyMembers depth members

end

/-- The text of a value without any space. -/
def compact (value : Json) : String := String.ofList (render value)

/-- The text of a value with one item per line. -/
def pretty (value : Json) : String := String.ofList (renderPretty 0 value)

end IccProfile.Json
