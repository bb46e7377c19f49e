import IccProfile.Text.Blank

/-!
# Paths

A path is a text with slashes between its names. Two paths are the same when their
components are: empty names and a dot behind the first name do not count, and two
dots stay as they are.

A path that is looked up has at most 4095 bytes and holds no null character; a name in
it has at most 255 bytes.
-/

set_option autoImplicit false

namespace IccProfile

/-- A path as it is written. -/
structure Path where
  text : String
deriving DecidableEq, Inhabited

namespace Path

/-- The texts between the slashes. -/
def segments (p : Path) : List String := (Text.pieces '/' p.text.toList).map String.ofList

/-- Whether a segment is a name or two dots. -/
def isName (segment : String) : Bool := segment ≠ "" && segment ≠ "."

/-- Whether a path starts at the root. -/
def isAbsolute (p : Path) : Bool := p.text.toList.head? = some '/'

/-- The components by which paths are compared: the root, a dot at the start, and names. -/
def components (p : Path) : List String :=
  match p.segments with
  | "" :: rest => if p.isAbsolute then "/" :: rest.filter isName else []
  | "." :: rest => "." :: rest.filter isName
  | segments => segments.filter isName

/-- Whether two paths have the same components. -/
def same (p q : Path) : Bool := p.components = q.components

/-- A path seen from another one. An absolute path stays as it is. -/
def join (base name : Path) : Path :=
  if name.isAbsolute || base.text = "" then name
  else if base.text.toList.getLast? = some '/' then ⟨base.text ++ name.text⟩
  else ⟨base.text ++ "/" ++ name.text⟩

/-- The last component, when it is a name. -/
def fileName? (p : Path) : Option String :=
  p.components.getLast?.filter fun name => name ≠ "/" && name ≠ "." && name ≠ ".."

/-- The part of a file name behind its last dot; a name that starts with its only dot has none. -/
def extension? (p : Path) : Option String :=
  p.fileName?.bind fun name =>
    let (after, before) := name.toList.reverse.span (· ≠ '.')
    match before with
    | [] | [_] => none
    | _ => some (String.ofList after.reverse)

/-- The path of components. -/
def ofComponents : List String → Path
  | "/" :: rest => ⟨"/" ++ String.intercalate "/" rest⟩
  | names => ⟨String.intercalate "/" names⟩

/-- The paths that end with a name of this one, the longest first. The segments behind the first
one are given in reverse. -/
def lineageFrom (first : String) : List String → List Path
  | [] => if first = "" then [] else [⟨first⟩]
  | segment :: before =>
    if isName segment then
      ⟨String.intercalate "/" (first :: (segment :: before).reverse)⟩ :: lineageFrom first before
    else lineageFrom first before

/-- The path without what stands behind its last name, then those above it, down to its first
name. -/
def lineage (p : Path) : List Path :=
  match p.segments with
  | [] => []
  | first :: rest => lineageFrom first rest.reverse

/-- The path without its last component; the root and the empty path have none. -/
def parent? (p : Path) : Option Path :=
  match p.lineage with
  | [] => none
  | [_] => some ⟨if p.isAbsolute then "/" else ""⟩
  | _ :: above :: _ => some above

/-- The greatest number of bytes of a path that is looked up. -/
def maxSize : Nat := 4095

/-- The greatest number of bytes of a name. -/
def maxNameSize : Nat := 255

/-- Whether a path can be looked up: it is not too long and holds no null character. -/
def isUsable (p : Path) : Bool :=
  p.text.utf8ByteSize ≤ maxSize && !p.text.toList.contains '\x00'

/-- A list of paths with colons between them. -/
def splitList (text : String) : List Path :=
  (Text.pieces ':' text.toList).map fun piece => ⟨String.ofList piece⟩

end Path

end IccProfile
