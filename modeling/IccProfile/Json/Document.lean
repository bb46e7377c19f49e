import IccProfile.Bytes
import IccProfile.Number.Integer

/-!
# JSON texts

The syntax of a JSON text, before numbers are evaluated and escapes are resolved. A
text is read once into a `Document`; what a reader does not look at only has to be
well formed, so ranges of numbers, pairs of surrogates and depths of nesting are
checked later, by the reader of a value.
-/

set_option autoImplicit false

namespace IccProfile.Json

/-- A character of a string: written as it is, or as a 16 bit unit in an escape. -/
inductive StringPart
  | char (c : Char)
  | unit (u : Nat)
deriving DecidableEq, Inhabited

/-- The parts of a number as they are written. -/
structure NumberText where
  negative : Bool
  whole : List Char
  /-- The digits behind the point, none when there is no point. -/
  fraction? : Option (List Char)
  /-- Whether the exponent has a minus sign, and its digits. -/
  exponent? : Option (Bool × List Char)
deriving DecidableEq, Inhabited

/-- The syntax of a value. -/
inductive Document
  | null
  | bool (b : Bool)
  | number (text : NumberText)
  | string (parts : List StringPart)
  | array (items : List Document)
  | object (members : List (List StringPart × Document))
deriving Inhabited

/-- White space between the tokens of a text. -/
def isSpace (c : Char) : Bool := c = ' ' || c = '\n' || c = '\t' || c = '\r'

/-- The text without white space at its start. -/
def skipSpace (cs : List Char) : List Char := cs.dropWhile isSpace

/-- The unit of four hexadecimal digits. -/
def hexUnit? (a b c d : Char) : Option Nat := do
  let a ← Bytes.hexValue? a
  let b ← Bytes.hexValue? b
  let c ← Bytes.hexValue? c
  let d ← Bytes.hexValue? d
  return a * 4096 + b * 256 + c * 16 + d

/-- The character that a letter behind a backslash stands for. -/
def escaped? : Char → Option Char
  | '"' => some '"'
  | '\\' => some '\\'
  | '/' => some '/'
  | 'b' => some '\x08'
  | 'f' => some '\x0c'
  | 'n' => some '\n'
  | 'r' => some '\r'
  | 't' => some '\t'
  | _ => none

/-- The parts of a string up to its closing quote, and what follows it. -/
def stringParts? : List Char → Option (List StringPart × List Char)
  | [] => none
  | '"' :: rest => some ([], rest)
  | '\\' :: 'u' :: a :: b :: c :: d :: rest => do
    let u ← hexUnit? a b c d
    let (parts, rest) ← stringParts? rest
    return (.unit u :: parts, rest)
  | '\\' :: c :: rest => do
    let c ← escaped? c
    let (parts, rest) ← stringParts? rest
    return (.char c :: parts, rest)
  | c :: rest =>
    if c.toNat < 0x20 then none
    else do
      let (parts, rest) ← stringParts? rest
      return (.char c :: parts, rest)

/-- The whole digits of a number: a single zero, or digits that do not start with one. -/
def wholeDigits? (cs : List Char) : Option (List Char × List Char) :=
  match cs with
  | '0' :: rest =>
    match rest with
    | [] => some (['0'], [])
    | c :: _ => if Number.isDigit c then none else some (['0'], rest)
  | _ =>
    let (digits, rest) := Number.spanDigits cs
    if digits.isEmpty then none else some (digits, rest)

/-- The digits behind a point, when there is one. -/
def fractionDigits? (cs : List Char) : Option (Option (List Char) × List Char) :=
  match cs with
  | '.' :: rest =>
    let (digits, rest) := Number.spanDigits rest
    if digits.isEmpty then none else some (some digits, rest)
  | _ => some (none, cs)

/-- The sign and the digits of an exponent, when there is one. -/
def exponentDigits? (cs : List Char) : Option (Option (Bool × List Char) × List Char) :=
  match cs with
  | c :: rest =>
    if c = 'e' ∨ c = 'E' then
      let (negative, rest) :=
        match rest with
        | '-' :: more => (true, more)
        | '+' :: more => (false, more)
        | _ => (false, rest)
      let (digits, rest) := Number.spanDigits rest
      if digits.isEmpty then none else some (some (negative, digits), rest)
    else some (none, cs)
  | [] => some (none, [])

/-- A number at the start of a text, and what follows it. -/
def number? (cs : List Char) : Option (NumberText × List Char) := do
  let (negative, rest) :=
    match cs with
    | '-' :: rest => (true, rest)
    | _ => (false, cs)
  let (whole, rest) ← wholeDigits? rest
  let (fraction?, rest) ← fractionDigits? rest
  let (exponent?, rest) ← exponentDigits? rest
  return (⟨negative, whole, fraction?, exponent?⟩, rest)

mutual

/-- A value at the start of a text, and what follows it. The first argument bounds the number
of steps. -/
def readValue? : Nat → List Char → Option (Document × List Char)
  | 0, _ => none
  | steps + 1, cs =>
    match skipSpace cs with
    | 'n' :: 'u' :: 'l' :: 'l' :: rest => some (.null, rest)
    | 't' :: 'r' :: 'u' :: 'e' :: rest => some (.bool true, rest)
    | 'f' :: 'a' :: 'l' :: 's' :: 'e' :: rest => some (.bool false, rest)
    | '"' :: rest => do
      let (parts, rest) ← stringParts? rest
      return (.string parts, rest)
    | '[' :: rest =>
      match skipSpace rest with
      | ']' :: rest => some (.array [], rest)
      | _ => do
        let (items, rest) ← readItems? steps rest
        return (.array items, rest)
    | '\x7b' :: rest =>
      match skipSpace rest with
      | '\x7d' :: rest => some (.object [], rest)
      | _ => do
        let (members, rest) ← readMembers? steps rest
        return (.object members, rest)
    | cs => do
      let (text, rest) ← number? cs
      return (.number text, rest)

/-- The items of an array up to its closing bracket, and what follows it. -/
def readItems? : Nat → List Char → Option (List Document × List Char)
  | 0, _ => none
  | steps + 1, cs => do
    let (item, rest) ← readValue? steps cs
    match skipSpace rest with
    | ',' :: rest =>
      let (items, rest) ← readItems? steps rest
      return (item :: items, rest)
    | ']' :: rest => return ([item], rest)
    | _ => none

/-- The members of an object up to its closing brace, and what follows it. -/
def readMembers? : Nat → List Char → Option (List (List StringPart × Document) × List Char)
  | 0, _ => none
  | steps + 1, cs =>
    match skipSpace cs with
    | '"' :: rest => do
      let (key, rest) ← stringParts? rest
      match skipSpace rest with
      | ':' :: rest =>
        let (item, rest) ← readValue? steps rest
        match skipSpace rest with
        | ',' :: rest =>
          let (members, rest) ← readMembers? steps rest
          return ((key, item) :: members, rest)
        | '\x7d' :: rest => return ([(key, item)], rest)
        | _ => none
      | _ => none
    | _ => none

end

/-- The document of a whole text: one value with white space around it. -/
def Document.ofText? (text : String) : Option Document :=
  let cs := text.toList
  match readValue? (2 * cs.length + 2) cs with
  | some (document, rest) => if (skipSpace rest).isEmpty then some document else none
  | none => none

end IccProfile.Json
