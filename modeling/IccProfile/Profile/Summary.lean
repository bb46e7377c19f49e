import IccProfile.Profile.Basic
import IccProfile.Text.Quoted

/-!
# A profile in one line

A short text that names the file, the length of the raw bytes, the color space,
the length of the tag list once it was read, and whether the profile was changed.
-/

set_option autoImplicit false

namespace IccProfile.Profile

/-- A value that may be missing. -/
def optionText : Option String → String
  | some s => "Some(" ++ s ++ ")"
  | none => "None"

/-- The line that describes a profile. -/
def summaryLine (p : Profile) : String :=
  "Profile \x7b file_name: " ++ optionText (p.fileName.map fun name => Text.quoted name.text)
    ++ ", size: " ++ optionText (p.raw.map fun data => toString data.length)
    ++ ", color_space: " ++ optionText (p.colorSpace?.map ColorSpace.name)
    ++ ", tags: " ++ optionText (p.tagList.map fun tags => toString tags.length)
    ++ ", modified: " ++ (if p.modified then "true" else "false") ++ ", .. \x7d"

end IccProfile.Profile
