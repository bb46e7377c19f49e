import IccProfile.Profile.Basic

/-!
# Device properties in a profile

A profile carries the properties of the device it was made for in the dictionary tag
`meta`. What is missing there is taken from elsewhere: the serial number from a key
that ends in `_serial`, model and maker from their description tags.
-/

set_option autoImplicit false

namespace IccProfile

/-- How device properties are put into a profile. -/
structure EmbedOptions where
  /-- The starts that keys have to have, with dots between them. -/
  requiredPrefix : Option String := none
  /-- Whether maker and model are also written as tags and header fields. -/
  setAttributes : Bool := false
deriving DecidableEq, Inhabited

namespace Properties

/-- The starts of keys in a text, with dots between them. -/
def keyStarts (text : String) : List (List Char) :=
  (Text.pieces '.' text.toList).filter (· ≠ [])

/-- The first of the starts that a key has. -/
def startOf? (starts : List (List Char)) (key : String) : Option (List Char) :=
  starts.find? fun start => start.isPrefixOf key.toList

/-- A key without the start that it has. -/
def shortKey (starts : List (List Char)) (key : String) : String :=
  match startOf? starts key with
  | some start => String.ofList (key.toList.drop start.length)
  | none => key

/-- The starts of keys for the given options: the required ones, else those under `prefix`. -/
def startsFor (p : Properties) (options : EmbedOptions) : List (List Char) :=
  keyStarts ((options.requiredPrefix.or (p.get? "prefix")).getD "")

/-- The properties that are stored: all, or with a required start those that have one and the
starts themselves. -/
def keptEntries (p : Properties) (options : EmbedOptions) : List (String × String) :=
  match options.requiredPrefix with
  | none => p.entries
  | some _ =>
    p.entries.filter fun e =>
      (startOf? (p.startsFor options) e.1).isSome || e.1 = "prefix"

/-- The entries of the dictionary; required starts are recorded in the first place unless the
properties name starts of their own. -/
def dictionaryEntries (p : Properties) (options : EmbedOptions) : List (String × String) :=
  match options.requiredPrefix with
  | some required =>
    if p.contains "prefix" then p.keptEntries options
    else ("prefix", required) :: p.keptEntries options
  | none => p.keptEntries options

/-- The stored properties under their short keys. -/
def attributes (p : Properties) (options : EmbedOptions) : Properties :=
  ⟨(p.keptEntries options).map fun e => (shortKey (p.startsFor options) e.1, e.2)⟩

/-- Adds a property unless its key is there. -/
def pushMissing (p : Properties) (key : String) (value? : Option String) : Properties :=
  if p.contains key then p
  else
    match value? with
    | some value => p.push key value
    | none => p

/-- The value of the first key that ends in `_serial`. -/
def serialLike? (p : Properties) : Option String :=
  (p.entries.find? fun e =>
    "_serial".toList.reverse.isPrefixOf e.1.toList.reverse).map (·.2)

end Properties

namespace Profile

/-- The header value of a model number: a number, else a code of up to four characters. -/
def modelCode? (text : String) : Option UInt32 :=
  match Number.naturalBelow? 0x100000000 (Text.trim text.toList) with
  | some n => some (UInt32.ofNat n)
  | none => Signature.ofAsciiText? text

/-- Stores an attribute as a text tag, when it is there. -/
def addAttributeText (p : Profile) (signature : Signature) (text? : Option String) :
    Except Error Profile :=
  match text? with
  | some text => p.addText signature text
  | none => .ok p

/-- Sets a header field to an attribute, when it has a value for it. -/
def setAttributeField (p : Profile) (f : HeaderField) (value? : Option UInt32) : Profile :=
  match value? with
  | some value => p.setField f value
  | none => p

/-- Writes maker and model as tags and header fields. -/
def setAttributes (p : Profile) (attributes : Properties) : Except Error Profile := do
  let p ← p.addAttributeText Signature.deviceMaker (attributes.get? "manufacturer")
  let p ← p.addAttributeText Signature.deviceModel (attributes.get? "model")
  let p := p.setAttributeField .manufacturer
    ((attributes.get? "mnft").bind Signature.ofAsciiText?)
  return p.setAttributeField .model ((attributes.get? "model_id").bind modelCode?)

/-- Stores device properties. -/
def addDevice (p : Profile) (properties : Properties) (options : EmbedOptions) :
    Except Error Profile := do
  let some tag := Tag.ofData? Signature.deviceProperties
      (.dictionary ⟨properties.dictionaryEntries options⟩)
    | .error (.invalidArgument .propertiesNotEncodable)
  let p ← p.addTag tag none
  if options.setAttributes then p.setAttributes (properties.attributes options) else return p

/-- The entries of the dictionary of device properties. -/
def storedProperties (p : Profile) : Properties :=
  match p.tag? Signature.deviceProperties with
  | some tag =>
    if tag.isCorrupted then .empty
    else
      match tag.data.dictionary? with
      | some dictionary => ⟨dictionary.entries⟩
      | none => .empty
  | none => .empty

/-- The device properties of a profile. -/
def deviceProperties (p : Profile) : Properties :=
  let stored := p.storedProperties
  stored.pushMissing "serial" stored.serialLike?
    |>.pushMissing "model" p.model
    |>.pushMissing "manufacturer" p.maker

/-- A pattern for the profiles of a device. Its properties go through a dictionary tag, so they
are those that a profile made for the device would carry. -/
def ofDevice (device : Device) : Except Error Profile := do
  let pattern ← empty.addDevice device.properties {}
  return { pattern.materialized with
    metaFilter := some { device with properties := pattern.deviceProperties } }

end Profile

end IccProfile
