import IccProfile.Profile.Embedding
import IccProfile.Proofs.Device.Properties
import IccProfile.Proofs.Profile.AddedTag

/-!
# Device properties that were stored

Storing device properties adds a tag that holds them (`addDevice_eq`), so they are the
properties that the profile is found to carry (`storedProperties_withDevice`), and also the
profile that is read from the written form, as long as no name and no value holds a NUL
(`storedProperties_reloaded`).

What a profile answers as its device properties are the stored ones with some behind
them. `get?_pushMissing_of_some` and `isAutoGenerated_pushMissing` say what is found as
before.
-/

set_option autoImplicit false

namespace IccProfile

namespace Properties

variable {p : Properties} {key name value : String}

/-- A property at the end is found when there is none of its key before it. -/
theorem get?_push (p : Properties) (key value name : String) :
    (p.push key value).get? name = (p.get? name).or (if key = name then some value else none) := by
  rw [get?, get?, push, List.find?_append, Option.map_or, List.find?_singleton]
  congr 1
  by_cases hkey : key = name
  · rw [if_pos hkey, decide_eq_true hkey]
    rfl
  · rw [if_neg hkey, decide_eq_false hkey]
    rfl

/-- A missing property is added at the end, or nothing is. -/
theorem pushMissing_eq (p : Properties) (key : String) (value? : Option String) :
    p.pushMissing key value? = p ∨ ∃ value, p.pushMissing key value? = p.push key value := by
  unfold pushMissing
  split
  · exact .inl rfl
  · cases value? with
    | none => exact .inl rfl
    | some value => exact .inr ⟨value, rfl⟩

/-- Without a value nothing is added. -/
theorem pushMissing_none (p : Properties) (key : String) : p.pushMissing key none = p := by
  unfold pushMissing
  split <;> rfl

theorem get?_pushMissing_of_some (h : p.get? name = some value) (key : String)
    (value? : Option String) : (p.pushMissing key value?).get? name = some value := by
  rcases pushMissing_eq p key value? with heq | ⟨added, heq⟩
  · rw [heq, h]
  · rw [heq, get?_push, h, Option.some_or]

theorem get?_pushMissing_of_ne (h : key ≠ name) (p : Properties) (value? : Option String) :
    (p.pushMissing key value?).get? name = p.get? name := by
  rcases pushMissing_eq p key value? with heq | ⟨added, heq⟩
  · rw [heq]
  · rw [heq, get?_push, if_neg h, Option.or_none]

/-- A property that is no flag leaves the flags as they are. -/
theorem isAutoGenerated_pushMissing (h : key ∉ autoGeneratedKeys) (p : Properties)
    (value? : Option String) : (p.pushMissing key value?).isAutoGenerated = p.isAutoGenerated := by
  apply isAutoGenerated_congr
  intro flag hflag
  apply get?_pushMissing_of_ne
  rintro rfl
  exact h hflag

/-- Properties stay when a missing one is added. -/
theorem entries_pushMissing_ne_nil (h : p.entries ≠ []) (key : String) (value? : Option String) :
    (p.pushMissing key value?).entries ≠ [] := by
  rcases pushMissing_eq p key value? with heq | ⟨added, heq⟩
  · rwa [heq]
  · rw [heq, push]
    exact List.append_ne_nil_of_left_ne_nil h _

end Properties

namespace Profile

variable {source : Option Bytes} {p : Profile} {properties : Properties}

/-- The tag that holds device properties. -/
def deviceTag (properties : Properties) : Tag :=
  let block := Dictionary.encode ⟨properties.entries⟩
  { signature := Signature.deviceProperties, type := Signature.typeDictionary, status := .ok,
    block, offset := none, declaredSize := UInt32.ofNat block.length, usedSize := block.length,
    modules := {}, data := .dictionary ⟨properties.entries⟩ }

theorem ofData?_deviceTag (properties : Properties) :
    Tag.ofData? Signature.deviceProperties (.dictionary ⟨properties.entries⟩) =
      some (deviceTag properties) := rfl

/-- The profile with a tag of device properties in the place of earlier ones. -/
def withDevice (p : Profile) (properties : Properties) : Profile :=
  p.setTags (insertTag p.allTags (deviceTag properties) none)

/-- Device properties can always be stored. -/
theorem addDevice_eq (p : Profile) (properties : Properties) :
    p.addDevice properties {} = .ok (p.withDevice properties) := by
  have hentries : properties.dictionaryEntries {} = properties.entries := rfl
  rw [addDevice, hentries, ofData?_deviceTag]
  simp only [addTag_eq p (rfl : (deviceTag properties).isHeader = false)]
  rfl

/-- Properties are found in a tag that was read well. -/
theorem storedProperties_of_tag? {tag : Tag}
    (h : p.tag? Signature.deviceProperties = some tag) (hok : tag.status = .ok)
    (hdata : tag.data = .dictionary ⟨properties.entries⟩) : p.storedProperties = properties := by
  have hread : tag.isCorrupted = false := by
    rw [Tag.isCorrupted, hok]
    rfl
  simp only [storedProperties, h, hread, hdata]
  rfl

/-- A profile carries the properties that were stored in it. -/
theorem Consistent.storedProperties_withDevice (h : Consistent source p)
    (properties : Properties) : (p.withDevice properties).storedProperties = properties :=
  storedProperties_of_tag? (h.tag?_withTag rfl) rfl rfl

/-- The written form carries the properties as well. -/
theorem Consistent.storedProperties_reloaded (h : Consistent source p)
    (hnul : Dictionary.NulFree ⟨properties.entries⟩)
    (hlength : (p.withDevice properties).toBytes.length < UInt32.size)
    (hfit : headerSize ≤ (p.withDevice properties).toBytes.length) :
    (fresh (p.withDevice properties).toBytes hfit).storedProperties = properties := by
  have hplain : (TagData.dictionary ⟨properties.entries⟩).IsPlain := hnul
  obtain ⟨tag, hfound, hok, hdata⟩ := h.stored_reloaded (ofData?_deviceTag properties) (by decide)
    trivial hlength hfit
  rw [TagData.stored_eq_self hplain] at hdata
  exact storedProperties_of_tag? hfound hok hdata

end Profile

end IccProfile
