import IccProfile.Profile.Embedding
import IccProfile.Proofs.Checked.Encoding
import IccProfile.Proofs.Checked.Tags

/-!
# Texts and device properties with checks

A text is stored as a tag in the form for the version of the profile. Device properties are
stored as a dictionary, and maker and model also as texts and header fields under the keys
without their start. A key is cut behind a start that it has, which is at the end of a
character.

The one bound that is needed is that of the count of a `desc` block: texts below `2 ^ 31`
bytes. The names of properties may have any length.
-/

set_option autoImplicit false

namespace IccProfile.Checked

/-! ## Texts -/

/-- The tag of written data. -/
def tagOfData (signature : Signature) (data : TagData) (written : Bytes) : Tag :=
  { signature, type := data.type, status := .ok, block := written, offset := none,
    declaredSize := UInt32.ofNat written.length, usedSize := written.length, modules := {}, data }

/-- The tag of a text in the form for the version of a profile. -/
def textTag (p : Profile) (signature : Signature) (text : String) : Checked Tag := do
  let version := Version.ofWord (← field p .version)
  if version.major ≥ 4 then
    let written ← encodeLocalized (LocalizedText.english text)
    return tagOfData signature (.localized (LocalizedText.english text)) written
  else if signature = Signature.copyright then
    return tagOfData signature (.text text) (← encodeText text)
  else
    return tagOfData signature (.description text) (← encodeDescription text)

/-- Stores a text. -/
def addText (p : Profile) (signature : Signature) (text : String) :
    Checked (Except Error Profile) := do
  addTag p (← textTag p signature text) none

theorem textTag_gives (p : Profile) (signature : Signature) {text : String}
    (h : text.utf8ByteSize < 2 ^ 31) :
    ∃ tag, Tag.ofData? signature (p.textData signature text) = some tag ∧
      Gives (textTag p signature text) tag := by
  simp only [textTag, field_eq, ok_bind, Profile.textData, Profile.version]
  by_cases hversion : (Version.ofWord (p.field .version)).major ≥ 4
  · simp only [hversion, if_true]
    exact ⟨_, rfl, (encodeLocalized_gives _).bind (gives_ok _)⟩
  · by_cases hplain : signature = Signature.copyright
    · simp only [hversion, hplain, if_true, if_false]
      exact ⟨_, rfl, (encodeText_gives text).bind (gives_ok _)⟩
    · simp only [hversion, hplain, if_false]
      exact ⟨_, rfl, (encodeDescription_gives h).bind (gives_ok _)⟩

theorem addText_gives (p : Profile) (signature : Signature) {text : String}
    (h : text.utf8ByteSize < 2 ^ 31) :
    Gives (addText p signature text) (p.addText signature text) := by
  obtain ⟨tag, htag, hgives⟩ := textTag_gives p signature h
  rw [Profile.addText, htag]
  exact hgives.bind (addTag_gives p tag none (by simp))

/-! ## Keys and codes -/

/-- The characters behind a number of bytes, which have to end with a character. -/
def dropBytes : List Char → Nat → Checked (List Char)
  | cs, 0 => return cs
  | [], _ + 1 => .error .range
  | c :: cs, n + 1 =>
    if c.utf8Size ≤ n + 1 then dropBytes cs (n + 1 - c.utf8Size) else .error .range

/-- The number of bytes of characters. -/
def byteLength (cs : List Char) : Nat := (cs.map Char.utf8Size).sum

/-- A key without the start that it has. -/
def shortKey (starts : List (List Char)) (key : String) : Checked String :=
  match Properties.startOf? starts key with
  | some start => return String.ofList (← dropBytes key.toList (byteLength start))
  | none => return key

/-- The code of a text of one to four ASCII characters, which are copied over blanks. -/
def asciiCode? (text : String) : Checked (Option Signature) := do
  let bs := Text.utf8 (Text.trimmed text)
  if bs.isEmpty || bs.length > 4 || !Text.isAscii (Text.trimmed text) then return none
  let filled ← copy (List.replicate 4 0x20) 0 bs.length bs
  return some (UInt32.ofNat (Bytes.toNat filled))

theorem dropBytes_append (start rest : List Char) :
    dropBytes (start ++ rest) (byteLength start) = .ok rest := by
  induction start with
  | nil =>
      cases rest <;> rfl
  | cons c start ih =>
      have hpos := c.utf8Size_pos
      have hlength : byteLength (c :: start) = c.utf8Size + byteLength start := by
        simp [byteLength]
      obtain ⟨n, hn⟩ : ∃ n, byteLength (c :: start) = n + 1 :=
        ⟨byteLength (c :: start) - 1, by omega⟩
      rw [List.cons_append, hn, dropBytes, if_pos (by omega),
        show n + 1 - c.utf8Size = byteLength start by omega, ih]

theorem shortKey_eq (starts : List (List Char)) (key : String) :
    shortKey starts key = .ok (Properties.shortKey starts key) := by
  unfold shortKey Properties.shortKey
  cases hstart : Properties.startOf? starts key with
  | none => rfl
  | some start =>
      have hprefix : start.isPrefixOf key.toList = true := by
        rw [Properties.startOf?] at hstart
        simpa using List.find?_some hstart
      obtain ⟨rest, hrest⟩ := List.isPrefixOf_iff_prefix.mp hprefix
      simp only [← hrest, dropBytes_append, ok_bind, List.drop_left, pure_eq]

theorem asciiCode?_eq (text : String) : asciiCode? text = .ok (Signature.ofAsciiText? text) := by
  simp only [asciiCode?, Signature.ofAsciiText?, Signature.ofText?, Signature.ofBytes]
  cases Text.isAscii (Text.trimmed text) with
  | false => simp
  | true =>
      generalize Text.utf8 (Text.trimmed text) = bs
      by_cases hshort : (bs.isEmpty || bs.length > 4) = true
      · simp only [hshort, Bool.true_or, if_true, pure_eq]
      · have hfit : bs.length ≤ 4 := by
          rw [Bool.or_eq_true, not_or] at hshort
          simpa using hshort.2
        have hblanks : (List.replicate 4 (0x20 : UInt8)).length = 4 := List.length_replicate
        have hfilled : copy (List.replicate 4 0x20) 0 bs.length bs =
            .ok (bs ++ List.replicate (4 - bs.length) 0x20) := by
          rw [copy_eq (Nat.zero_add _).symm (by rw [hblanks]; omega), Bytes.patch, hblanks,
            if_pos (by omega), Nat.zero_add, List.drop_replicate, List.take_zero, List.nil_append]
        simp only [hshort, Bool.not_true, Bool.or_false, if_true, pure_eq, hfilled, ok_bind]
        rfl

/-! ## Device properties -/

/-- Stores an attribute as a text tag, when it is there. -/
def addAttributeText (p : Profile) (signature : Signature) (text? : Option String) :
    Checked (Except Error Profile) :=
  match text? with
  | some text => addText p signature text
  | none => return .ok p

/-- Sets a header field to an attribute, when it has a value for it. -/
def setAttributeField (p : Profile) (f : HeaderField) (value? : Option UInt32) : Checked Profile :=
  match value? with
  | some value => setField p f value
  | none => return p

/-- The header value of an attribute with a code. -/
def attributeCode? (text? : Option String) : Checked (Option UInt32) :=
  match text? with
  | some text => asciiCode? text
  | none => return none

/-- The header value of a model number: a number, else a code. -/
def modelCode? (text? : Option String) : Checked (Option UInt32) :=
  match text? with
  | some text =>
    match Number.naturalBelow? 0x100000000 (Text.trim text.toList) with
    | some n => return some (UInt32.ofNat n)
    | none => asciiCode? text
  | none => return none

/-- Writes maker and model as tags and header fields. -/
def setAttributes (p : Profile) (attributes : Properties) : Checked (Except Error Profile) := do
  match ← addAttributeText p Signature.deviceMaker (attributes.get? "manufacturer") with
  | .error fault => return .error fault
  | .ok p =>
    match ← addAttributeText p Signature.deviceModel (attributes.get? "model") with
    | .error fault => return .error fault
    | .ok p =>
      let p ← setAttributeField p .manufacturer (← attributeCode? (attributes.get? "mnft"))
      return .ok (← setAttributeField p .model (← modelCode? (attributes.get? "model_id")))

/-- Stores device properties; the list of entries has room for one more than there are. -/
def addDevice (p : Profile) (properties : Properties) (options : EmbedOptions) :
    Checked (Except Error Profile) := do
  holdAll 24 (textSizes properties.entries)
  let _ ← add properties.size 1
  let attributes ← (properties.keptEntries options).mapM fun e =>
    return (← shortKey (properties.startsFor options) e.1, e.2)
  let entries := properties.dictionaryEntries options
  let data := TagData.dictionary ⟨entries⟩
  let tag := tagOfData Signature.deviceProperties data (← encodeDictionary entries)
  match ← addTag p tag none with
  | .error fault => return .error fault
  | .ok p => if options.setAttributes then setAttributes p ⟨attributes⟩ else return .ok p

theorem addAttributeText_gives (p : Profile) (signature : Signature) {text? : Option String}
    (h : ∀ text ∈ text?, text.utf8ByteSize < 2 ^ 31) :
    Gives (addAttributeText p signature text?) (p.addAttributeText signature text?) := by
  cases text? with
  | none => exact gives_ok _
  | some text => exact addText_gives p signature (h text rfl)

theorem setAttributeField_eq (p : Profile) (f : HeaderField) (value? : Option UInt32) :
    setAttributeField p f value? = .ok (p.setAttributeField f value?) := by
  cases value? with
  | none => rfl
  | some value => exact setField_eq p f value

theorem attributeCode?_eq (text? : Option String) :
    attributeCode? text? = .ok (text?.bind Signature.ofAsciiText?) := by
  cases text? with
  | none => rfl
  | some text => simp only [attributeCode?, Option.bind_some, asciiCode?_eq]

theorem modelCode?_eq (text? : Option String) :
    modelCode? text? = .ok (text?.bind Profile.modelCode?) := by
  cases text? with
  | none => rfl
  | some text =>
      simp only [modelCode?, Option.bind_some, Profile.modelCode?]
      cases Number.naturalBelow? 0x100000000 (Text.trim text.toList) with
      | none => simp only [asciiCode?_eq]
      | some n => rfl

/-- A value that is found is that of an entry. -/
theorem exists_of_get? {properties : Properties} {key value : String}
    (h : properties.get? key = some value) : ∃ e ∈ properties.entries, e.2 = value := by
  obtain ⟨e, hfound, hvalue⟩ := Option.map_eq_some_iff.mp h
  exact ⟨e, List.mem_of_find?_eq_some hfound, hvalue⟩

theorem setAttributes_gives (p : Profile) {attributes : Properties}
    (h : ∀ e ∈ attributes.entries, e.2.utf8ByteSize < 2 ^ 31) :
    Gives (setAttributes p attributes) (p.setAttributes attributes) := by
  have hvalue (key : String) : ∀ text ∈ attributes.get? key, text.utf8ByteSize < 2 ^ 31 := by
    intro text htext
    obtain ⟨e, he, rfl⟩ := exists_of_get? htext
    exact h e he
  unfold setAttributes Profile.setAttributes
  apply (addAttributeText_gives p Signature.deviceMaker (hvalue "manufacturer")).bind
  cases p.addAttributeText Signature.deviceMaker (attributes.get? "manufacturer") with
  | error fault => exact gives_ok _
  | ok p =>
      apply (addAttributeText_gives p Signature.deviceModel (hvalue "model")).bind
      cases hmodel : p.addAttributeText Signature.deviceModel (attributes.get? "model") with
      | error fault =>
          simp only [hmodel, bind, Except.bind]
          exact gives_ok _
      | ok p =>
          simp only [attributeCode?_eq, modelCode?_eq, setAttributeField_eq, ok_bind]
          simp only [hmodel, bind, Except.bind]
          exact gives_ok _

/-- The values under short keys are those of the properties. -/
theorem lt_of_mem_attributes {properties : Properties} {options : EmbedOptions}
    (h : ∀ e ∈ properties.entries, e.2.utf8ByteSize < 2 ^ 31) :
    ∀ e ∈ (properties.attributes options).entries, e.2.utf8ByteSize < 2 ^ 31 := by
  intro e he
  obtain ⟨stored, hstored, rfl⟩ := List.mem_map.mp he
  apply h stored
  unfold Properties.keptEntries at hstored
  split at hstored
  · exact hstored
  · exact (List.mem_filter.mp hstored).1

theorem addDevice_gives (p : Profile) {properties : Properties} (options : EmbedOptions)
    (h : ∀ e ∈ properties.entries, e.2.utf8ByteSize < 2 ^ 31) :
    Gives (addDevice p properties options) (p.addDevice properties options) := by
  unfold addDevice
  apply gives_holdAll
  intro hfits
  have hroom := hfits.lt 8 16 (by decide) (by decide)
  rw [length_textSizes, ← Properties.size] at hroom
  have hkeys : (properties.keptEntries options).mapM (fun e => do
      return (← shortKey (properties.startsFor options) e.1, e.2)) =
        .ok (properties.attributes options).entries :=
    mapM_eq fun e _ => by rw [shortKey_eq]; rfl
  rw [add_eq (by omega), ok_bind, hkeys, ok_bind]
  apply (encodeDictionary_gives _).bind
  let tag := tagOfData Signature.deviceProperties
    (.dictionary ⟨properties.dictionaryEntries options⟩)
    (Dictionary.encode ⟨properties.dictionaryEntries options⟩)
  have htag : Tag.ofData? Signature.deviceProperties
      (.dictionary ⟨properties.dictionaryEntries options⟩) = some tag := rfl
  apply (addTag_gives p tag none (by simp)).bind
  simp only [Profile.addDevice, htag]
  cases hadded : p.addTag tag none with
  | error fault =>
      simp only [bind, Except.bind]
      exact gives_ok _
  | ok p =>
      simp only [bind, Except.bind]
      cases options.setAttributes with
      | false => exact gives_ok _
      | true => exact setAttributes_gives p (lt_of_mem_attributes h)

end IccProfile.Checked
