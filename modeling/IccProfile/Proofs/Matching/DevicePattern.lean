import IccProfile.Matching.Pattern
import IccProfile.Proofs.Matching.Rank
import IccProfile.Proofs.Profile.DeviceProperties

/-!
# Finding the profile that was made for a device

The pattern of a device goes through a device tag of its own, so its properties are those
of the device, with a serial number behind them where one is missing (`ofDevice_eq`). A
profile that carries the properties of the device has the same serial number, and perhaps
a model and a maker behind it, so it ranks above zero (`rank_pos_of_stored`). This holds of
the profile that was made for the device, and of what is read from its written form
(`found_by_pattern`).
-/

set_option autoImplicit false

namespace IccProfile.Matching

open Profile

variable {source : Option Bytes} {p : Profile} {device : Device}

/-- The properties of a device as its pattern has them. -/
def filterProperties (properties : Properties) : Properties :=
  properties.pushMissing "serial" properties.serialLike?

/-- A profile answers with the properties that it carries, a model and a maker behind them. -/
theorem deviceProperties_of_stored {properties : Properties}
    (h : p.storedProperties = properties) :
    p.deviceProperties =
      ((filterProperties properties).pushMissing "model" p.model).pushMissing "manufacturer"
        p.maker := by
  rw [deviceProperties, h, filterProperties]

/-- The pattern of a device filters by its properties and by no file name. -/
theorem ofDevice_eq (device : Device) :
    ∃ pattern, ofDevice device = .ok pattern ∧ pattern.fileName = none ∧
      pattern.metaFilter =
        some { device with properties := filterProperties device.properties } := by
  have hstored := consistent_empty.storedProperties_withDevice device.properties
  -- no other tag of the pattern tells a model or a maker
  have hmodel : (empty.withDevice device.properties).model = none := rfl
  have hmaker : (empty.withDevice device.properties).maker = none := rfl
  have hproperties : (empty.withDevice device.properties).deviceProperties =
      filterProperties device.properties := by
    rw [deviceProperties_of_stored hstored, hmodel, hmaker, Properties.pushMissing_none,
      Properties.pushMissing_none]
  refine ⟨{ (empty.withDevice device.properties).materialized with
    metaFilter := some { device with properties := filterProperties device.properties } },
    ?_, rfl, rfl⟩
  rw [ofDevice, addDevice_eq, ← hproperties]
  rfl

/-- A profile that carries the properties of a device ranks above zero for its pattern. -/
theorem rank_pos_of_stored {properties : Properties} (policy : RankPolicy) (subString : Bool)
    (hproperties : properties.entries ≠ []) (hauto : properties.isAutoGenerated = false)
    (h : p.storedProperties = properties) :
    0 < rank (filterProperties properties) p.deviceProperties
      (some (RankMap.counting (filterProperties properties).keys)) policy subString := by
  rw [deviceProperties_of_stored h]
  apply rank_counting_pos
  · exact Properties.entries_pushMissing_ne_nil hproperties _ _
  · intro key value hvalue
    exact Properties.get?_pushMissing_of_some
      (Properties.get?_pushMissing_of_some hvalue "model" p.model) "manufacturer" p.maker
  · rw [Properties.isAutoGenerated_pushMissing (by decide),
      Properties.isAutoGenerated_pushMissing (by decide), filterProperties,
      Properties.isAutoGenerated_pushMissing (by decide), hauto]

/-- It fits the pattern. -/
theorem patternMatches_of_stored {pattern : Profile} (policy : RankPolicy)
    (hproperties : device.properties.entries ≠ []) (hmap : device.rankMap = none)
    (hauto : device.properties.isAutoGenerated = false) (hname : pattern.fileName = none)
    (hfilter : pattern.metaFilter =
      some { device with properties := filterProperties device.properties })
    (h : p.storedProperties = device.properties) : patternMatches pattern p policy = true := by
  simp only [patternMatches, hfilter, hname, deviceMatches, hmap, Option.any_none,
    Option.getD_none, decide_eq_true_eq]
  exact rank_pos_of_stored policy false hproperties hauto h

/-- A profile that was made for a device fits the pattern of this device, and so does what is
read from its written form. The device has a property, no rank map and no flag for profiles made
without measuring; storage needs names and values without NUL. -/
theorem found_by_pattern (hp : Reachable source p) (hproperties : device.properties.entries ≠ [])
    (hmap : device.rankMap = none) (hauto : device.properties.isAutoGenerated = false)
    (policy : RankPolicy) :
    ∃ q pattern, p.addDevice device.properties {} = .ok q ∧ ofDevice device = .ok pattern ∧
      patternMatches pattern q policy = true ∧
      ((∀ property ∈ device.properties.entries,
          Text.NulFree property.1 ∧ Text.NulFree property.2) →
        q.toBytes.length < UInt32.size →
          ∃ r, ofBytes q.toBytes = .ok r ∧ patternMatches pattern r policy = true) := by
  have hconsistent := hp.consistent
  have hadd := addDevice_eq p device.properties
  obtain ⟨pattern, hpattern, hname, hfilter⟩ := ofDevice_eq device
  have hfits : ∀ q : Profile, q.storedProperties = device.properties →
      patternMatches pattern q policy = true :=
    fun q hq => patternMatches_of_stored policy hproperties hmap hauto hname hfilter hq
  refine ⟨p.withDevice device.properties, pattern, hadd, hpattern, ?_, ?_⟩
  · exact hfits _ (hconsistent.storedProperties_withDevice device.properties)
  -- what is written carries the properties too
  · intro hnul hlength
    have hafter : Consistent source (p.withDevice device.properties) :=
      hconsistent.insertTag (.ofData (ofData?_deviceTag device.properties)) rfl none
    have haccepted := hafter.accepted_toBytes hlength
    exact ⟨_, ofBytes_of_accepted haccepted,
      hfits _ (hconsistent.storedProperties_reloaded hnul hlength haccepted.headerSize_le)⟩

/-- A device with a repeated key, an empty value, a list of values and a name that stands for a
serial number. -/
def scanner : Device where
  className := "scanner"
  id := "0"
  properties := ⟨[("model", "S1,S2"), ("comment", ""), ("model", "other"), ("usb_serial", "7")]⟩
  rankMap := none

/-- A profile that was made for another device. -/
def madeBefore : Profile := (empty.serve (.addDevice ⟨[("model", "S0")]⟩ {})).2

theorem found_by_pattern_scanner :
    scanner.properties.entries ≠ [] ∧ scanner.rankMap = none ∧
      scanner.properties.isAutoGenerated = false ∧
      ∃ q pattern r, madeBefore.addDevice scanner.properties {} = .ok q ∧
        ofDevice scanner = .ok pattern ∧ ofBytes q.toBytes = .ok r ∧
        patternMatches pattern r {} = true := by
  have hproperties : scanner.properties.entries ≠ [] := by decide
  have hauto : scanner.properties.isAutoGenerated = false := by decide +kernel
  have hnul : ∀ property ∈ scanner.properties.entries,
      Text.NulFree property.1 ∧ Text.NulFree property.2 := by
    decide +kernel
  obtain ⟨q, pattern, hq, hpattern, -, hreload⟩ :=
    found_by_pattern (.serve _ trivial .empty : Reachable none madeBefore) hproperties rfl hauto {}
  have hlength : q.toBytes.length < UInt32.size := by
    obtain rfl := Except.ok.inj ((addDevice_eq madeBefore scanner.properties).symm.trans hq)
    rw [length_toBytes_of_rewritten rfl]
    decide +kernel
  obtain ⟨r, hr, hfits⟩ := hreload hnul hlength
  exact ⟨hproperties, rfl, hauto, q, pattern, r, hq, hpattern, hr, hfits⟩

end IccProfile.Matching
