/-!
# White space and pieces

Values are compared without the white space around them, and lists of values are
written with a separator between the pieces.
-/

set_option autoImplicit false

namespace IccProfile.Text

/-- The characters of the Unicode property `White_Space`. -/
def isBlank (c : Char) : Bool :=
  let n := c.toNat
  (9 ≤ n && n ≤ 13) || n == 0x20 || n == 0x85 || n == 0xA0 || n == 0x1680 ||
    (0x2000 ≤ n && n ≤ 0x200A) || n == 0x2028 || n == 0x2029 || n == 0x202F ||
    n == 0x205F || n == 0x3000

/-- The characters without white space at either end. -/
def trim (cs : List Char) : List Char :=
  ((cs.dropWhile isBlank).reverse.dropWhile isBlank).reverse

/-- The text without white space at either end. -/
def trimmed (s : String) : String := String.ofList (trim s.toList)

/-- The pieces between the separators; there is always at least one. -/
def pieces (sep : Char) : List Char → List (List Char)
  | [] => [[]]
  | c :: rest =>
    if c = sep then [] :: pieces sep rest
    else
      match pieces sep rest with
      | [] => [[c]]
      | piece :: more => (c :: piece) :: more

/-- Whether a text starts with the given characters. -/
def startsWith (cs start : List Char) : Bool := start.isPrefixOf cs

/-- Whether the given characters stand one after the other somewhere in a text. -/
def contains : (cs part : List Char) → Bool
  | [], part => part.isEmpty
  | c :: rest, part => part.isPrefixOf (c :: rest) || contains rest part

theorem pieces_ne_nil (sep : Char) (cs : List Char) : pieces sep cs ≠ [] := by
  cases cs with
  | nil => simp [pieces]
  | cons c rest =>
    simp only [pieces]
    split
    · simp
    · split <;> simp

end IccProfile.Text
