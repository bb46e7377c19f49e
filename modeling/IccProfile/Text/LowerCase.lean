import IccProfile.Text.CaseTable
import IccProfile.Text.Ranges

/-!
# Lower case

The lower case form of a text, letter by letter. Two letters do not have one form of one
character: the capital I with a dot above keeps its dot as a character of its own, and
the capital sigma has a form of its own at the end of a word.

A sigma ends a word when a letter with case stands before it and none behind it;
characters such as accents and apostrophes are passed over on both sides.
-/

set_option autoImplicit false

namespace IccProfile.Text

/-- Whether a character is passed over when one looks for a letter with case. -/
def isCaseIgnorable (c : Char) : Bool := inRanges ignorableRanges c

/-- Whether a character counts as a letter with case. -/
def isCased (c : Char) : Bool := inRanges casedRanges c

/-- Whether a run holds a character. -/
def CaseRun.holds (r : CaseRun) (c : Char) : Bool :=
  r.first ≤ c.toNat && c.toNat ≤ r.last && (c.toNat - r.first) % r.step = 0

/-- The lower case form of a character, as far as it is one character. -/
def lowerChar (c : Char) : Char :=
  match caseRuns.find? (·.holds c) with
  | some r => Char.ofNat (r.lower + (c.toNat - r.first))
  | none => c

/-- Whether the first character that is not passed over is a letter with case. -/
def startsCased (cs : List Char) : Bool :=
  match cs.dropWhile isCaseIgnorable with
  | [] => false
  | c :: _ => isCased c

/-- The lower case form of a character between those before it, the nearest first, and those behind
it. -/
def lowerBetween (before : List Char) (c : Char) (after : List Char) : List Char :=
  if c = 'Σ' then [if startsCased before && !startsCased after then 'ς' else 'σ']
  else if c = 'İ' then ['i', Char.ofNat 0x307]
  else [lowerChar c]

/-- The lower case form of characters that stand behind others, which are given from the nearest
on. -/
def lowerFrom : (before rest : List Char) → List Char
  | _, [] => []
  | before, c :: rest => lowerBetween before c rest ++ lowerFrom (c :: before) rest

/-- The lower case form of a text. -/
def lowerCase (s : String) : String := String.ofList (lowerFrom [] s.toList)

end IccProfile.Text
