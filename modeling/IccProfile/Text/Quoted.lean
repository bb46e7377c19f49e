import IccProfile.Text.HiddenTable
import IccProfile.Text.Ranges

/-!
# Quoted text

A text between double quotes. A backslash stands before a double quote and before a
backslash; a character that cannot be shown is written by its number or, if it has
one, by its letter.
-/

set_option autoImplicit false

namespace IccProfile.Text

/-- The hexadecimal digits of a number, at least one. -/
def hexDigits (n : Nat) : List Char := Nat.toDigits 16 n

/-- A character between quotes. -/
def quoteChar (c : Char) : List Char :=
  match c with
  | '\x00' => ['\\', '0']
  | '\t' => ['\\', 't']
  | '\n' => ['\\', 'n']
  | '\r' => ['\\', 'r']
  | '"' => ['\\', '"']
  | '\\' => ['\\', '\\']
  | c =>
    if inRanges hiddenRanges c then '\\' :: 'u' :: '\x7b' :: hexDigits c.toNat ++ ['\x7d'] else [c]

/-- A text between quotes. -/
def quoted (s : String) : String :=
  String.ofList ('"' :: s.toList.flatMap quoteChar ++ ['"'])

end IccProfile.Text
