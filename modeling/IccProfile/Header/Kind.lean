import IccProfile.Signature

/-!
# Profile classes, color spaces and rendering intents

The header names each of these by a code; a code outside the tables below stays a
code and has no kind.
-/

set_option autoImplicit false

namespace IccProfile

/-- What a profile is made for. -/
inductive ProfileClass
  | input
  | display
  | output
  | deviceLink
  | colorSpace
  | abstract
  | namedColor
deriving DecidableEq, Inhabited

namespace ProfileClass

/-- All classes. -/
def all : List ProfileClass :=
  [.input, .display, .output, .deviceLink, .colorSpace, .abstract, .namedColor]

/-- The header code: `scnr`, `mntr`, `prtr`, `link`, `spac`, `abst`, `nmcl`. -/
def signature : ProfileClass → Signature
  | .input => 0x73636e72
  | .display => 0x6d6e7472
  | .output => 0x70727472
  | .deviceLink => 0x6c696e6b
  | .colorSpace => 0x73706163
  | .abstract => 0x61627374
  | .namedColor => 0x6e6d636c

/-- The class of a header code. -/
def ofSignature? (s : Signature) : Option ProfileClass := all.find? (·.signature = s)

/-- The name of a class. -/
def name : ProfileClass → String
  | .input => "Input"
  | .display => "Display"
  | .output => "Output"
  | .deviceLink => "DeviceLink"
  | .colorSpace => "ColorSpace"
  | .abstract => "Abstract"
  | .namedColor => "NamedColor"

end ProfileClass

/-- A color space; `channels n` are the spaces of `n` unnamed colors. -/
inductive ColorSpace
  | xyz
  | lab
  | luv
  | yCbCr
  | yxy
  | rgb
  | gray
  | hsv
  | hls
  | cmyk
  | cmy
  | channels (count : UInt8)
deriving DecidableEq, Inhabited

namespace ColorSpace

/-- The color spaces with a code of their own. -/
def named : List ColorSpace :=
  [.xyz, .lab, .luv, .yCbCr, .yxy, .rgb, .gray, .hsv, .hls, .cmyk, .cmy]

/-- The character in the code of a space of unnamed colors: the count as an upper case
hexadecimal digit, `0` when it is not below 16. -/
def countDigit (count : UInt8) : UInt8 :=
  if count < 10 then 48 + count else if count < 16 then 55 + count else 48

/-- The header code, for example `RGB` and a blank, or `7CLR` for seven colors. -/
def signature : ColorSpace → Signature
  | .xyz => 0x58595a20
  | .lab => 0x4c616220
  | .luv => 0x4c757620
  | .yCbCr => 0x59436272
  | .yxy => 0x59787920
  | .rgb => 0x52474220
  | .gray => 0x47524159
  | .hsv => 0x48535620
  | .hls => 0x484c5320
  | .cmyk => 0x434d594b
  | .cmy => 0x434d5920
  | .channels count => UInt32.ofNat (Bytes.toNat [countDigit count, 67, 76, 82])

/-- The color space of a code that ends in `CLR`: two to fifteen colors, in a digit of
either case. -/
def ofCountSignature? (s : Signature) : Option ColorSpace :=
  match Bytes.ofWord32 s with
  | [digit, 67, 76, 82] =>
    match Bytes.hexValue? (Text.charOfByte digit) with
    | some count => if 2 ≤ count then some (.channels (UInt8.ofNat count)) else none
    | none => none
  | _ => none

/-- The color space of a header code. -/
def ofSignature? (s : Signature) : Option ColorSpace :=
  match named.find? (·.signature = s) with
  | some space => some space
  | none => ofCountSignature? s

/-- The name of a color space. -/
def name : ColorSpace → String
  | .xyz => "Xyz"
  | .lab => "Lab"
  | .luv => "Luv"
  | .yCbCr => "YCbCr"
  | .yxy => "Yxy"
  | .rgb => "Rgb"
  | .gray => "Gray"
  | .hsv => "Hsv"
  | .hls => "Hls"
  | .cmyk => "Cmyk"
  | .cmy => "Cmy"
  | .channels count => "Color(" ++ toString count.toNat ++ ")"

/-- The number of color channels. -/
def channelCount : ColorSpace → Nat
  | .gray => 1
  | .cmyk => 4
  | .channels count => count.toNat
  | _ => 3

/-- The names of the color channels. -/
def channelNames : ColorSpace → List String
  | .gray => ["K"]
  | .xyz => ["X", "Y", "Z"]
  | .lab => ["L", "a", "b"]
  | .luv => ["L", "u", "v"]
  | .yCbCr => ["Y", "Cb", "Cr"]
  | .yxy => ["Y", "x", "y"]
  | .rgb => ["R", "G", "B"]
  | .hsv => ["H", "S", "V"]
  | .hls => ["H", "L", "S"]
  | .cmy => ["C", "M", "Y"]
  | .cmyk => ["C", "M", "Y", "K"]
  | .channels count =>
    (List.range count.toNat).map fun i => toString (i + 1) ++ ". color"

end ColorSpace

/-- How colors outside the range of a device are treated. -/
inductive RenderingIntent
  | perceptual
  | relativeColorimetric
  | saturation
  | absoluteColorimetric
deriving DecidableEq, Inhabited

namespace RenderingIntent

/-- All intents, in the order of their numbers. -/
def all : List RenderingIntent :=
  [.perceptual, .relativeColorimetric, .saturation, .absoluteColorimetric]

/-- The number of an intent in the header. -/
def number : RenderingIntent → UInt32
  | .perceptual => 0
  | .relativeColorimetric => 1
  | .saturation => 2
  | .absoluteColorimetric => 3

/-- The intent of a number in the header. -/
def ofNumber? (n : UInt32) : Option RenderingIntent := all.find? (·.number = n)

/-- The name of an intent. -/
def name : RenderingIntent → String
  | .perceptual => "Perceptual"
  | .relativeColorimetric => "RelativeColorimetric"
  | .saturation => "Saturation"
  | .absoluteColorimetric => "AbsoluteColorimetric"

end RenderingIntent

end IccProfile
