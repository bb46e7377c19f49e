import IccProfile.Profile.Written

/-!
# The overview of a profile

The lines that show a profile: its file and description, the header fields, the state
of its ID, and its tags with the places and sizes of their blocks.
-/

set_option autoImplicit false

namespace IccProfile.CommandLine

/-- A text behind blanks up to a width. -/
def alignRight (width : Nat) (text : String) : String :=
  String.ofList (List.replicate (width - text.length) ' ') ++ text

/-- A text with blanks behind it up to a width. -/
def alignLeft (width : Nat) (text : String) : String :=
  text ++ String.ofList (List.replicate (width - text.length) ' ')

/-- A line with a label in front. -/
def labelled (label text : String) : String := alignLeft 14 (label ++ ":") ++ text

/-- The header fields that are shown as codes, with their labels. -/
def shownFields : List (String × HeaderField) :=
  [("Class", .profileClass), ("Color space", .colorSpace), ("PCS", .pcs), ("CMM", .cmm),
    ("Platform", .platform), ("Manufacturer", .manufacturer), ("Model", .model),
    ("Creator", .creator)]

/-- The state of the ID of a profile. -/
def idState (p : Profile) : String :=
  match p.checkId with
  | .valid => p.id.toHex ++ " (valid)"
  | .missing => "missing, computed " ++ p.computedId.toHex
  | .mismatch embedded computed =>
    embedded.toHex ++ " does not match computed " ++ computed.toHex

/-- The line of a tag at a position. -/
def tagLine (tag : Tag) (position : Nat) : String :=
  alignRight 3 (toString position) ++ " " ++ Signature.text tag.signature ++ " "
    ++ Signature.text tag.type
    ++ " offset " ++ alignRight 8 (toString (tag.offset.getD 0).toNat)
    ++ " size " ++ alignRight 8 (toString tag.declaredSize.toNat)
    ++ (if tag.isCorrupted then " corrupted" else "")

/-- The three numbers of a version with points between them. -/
def versionText (v : Version) : String :=
  String.intercalate "." ([v.major, v.minor, v.patch].map fun part => toString part.toNat)

/-- The lines that show a profile. -/
def overviewLines (p : Profile) : List String :=
  (p.fileName.map fun file => labelled "File" file.text).toList
    ++ (p.description.map (labelled "Description")).toList
    ++ [labelled "Version" (versionText p.version)]
    ++ (shownFields.map fun (label, f) =>
      labelled label ("'" ++ Signature.text (p.field f) ++ "'"))
    ++ [labelled "Channels" (String.intercalate " " p.channelNames),
      labelled "Size" (toString (p.field .size).toNat),
      labelled "Profile ID" (idState p),
      "",
      "Tags: " ++ toString p.tags.length]
    ++ p.tags.mapIdx fun i tag => tagLine tag i

/-- Lines with a line end behind each. -/
def ofLines (lines : List String) : String := String.join (lines.map (· ++ "\n"))

/-- The text that shows a profile. -/
def overview (p : Profile) : String := ofLines (overviewLines p)

end IccProfile.CommandLine
