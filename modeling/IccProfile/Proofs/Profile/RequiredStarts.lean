import IccProfile.Proofs.Profile.Embedded
import IccProfile.Proofs.Profile.Registers
import IccProfile.Proofs.Profile.StoredText

/-!
# Device properties with a required start

With a required start only the properties are stored whose key starts with one of its parts, and
the starts are recorded under `prefix` (`Properties.dictionaryEntries_required`). Properties that
bring starts of their own keep them: these are recorded then in place of the required ones.

Storing device properties succeeds with any options, and maker and model that are written beside
them leave the dictionary as it is (`Reachable.exists_addDevice`).
-/

set_option autoImplicit false

namespace IccProfile

namespace Properties

variable {p : Properties} {required key : String}

/-- The key starts with one of the parts of a text with dots between them; empty parts do not
count. -/
def HasStart (required key : String) : Prop :=
  ∃ start ∈ Text.pieces '.' required.toList, start ≠ [] ∧ start <+: key.toList

theorem isSome_startOf?_iff :
    (startOf? (keyStarts required) key).isSome = true ↔ HasStart required key := by
  simp only [startOf?, List.find?_isSome, keyStarts, List.mem_filter, decide_eq_true_eq,
    List.isPrefixOf_iff_prefix, HasStart, and_assoc]

instance : Decidable (HasStart required key) :=
  decidable_of_iff _ isSome_startOf?_iff

/-- Starts are recorded in the first place unless the properties bring their own; what is kept are
these and the properties whose key has a required start. -/
theorem dictionaryEntries_required (p : Properties) (required : String) (setAttributes : Bool) :
    p.dictionaryEntries ⟨some required, setAttributes⟩ =
      (if p.contains "prefix" then [] else [("prefix", required)]) ++
        p.entries.filter fun e => HasStart required e.1 ∨ e.1 = "prefix" := by
  have hkept : p.keptEntries ⟨some required, setAttributes⟩ =
      p.entries.filter fun e => HasStart required e.1 ∨ e.1 = "prefix" := by
    refine List.filter_congr fun e _ => ?_
    have hstarts : p.startsFor ⟨some required, setAttributes⟩ = keyStarts required := by
      rw [startsFor, Option.some_or, Option.getD_some]
    rw [hstarts, Bool.eq_iff_iff, Bool.or_eq_true, isSome_startOf?_iff, decide_eq_true_eq,
      decide_eq_true_eq]
  simp only [dictionaryEntries, hkept]
  cases p.contains "prefix" with
  | true => rfl
  | false => rfl

/-- The starts that are recorded are the properties' own ones, else the required ones. -/
theorem get?_dictionaryEntries_required (p : Properties) (required : String)
    (setAttributes : Bool) :
    Dictionary.get? ⟨p.dictionaryEntries ⟨some required, setAttributes⟩⟩ "prefix" =
      some ((p.get? "prefix").getD required) := by
  -- the properties under `prefix` are all kept
  have hown : (p.entries.filter fun e => HasStart required e.1 ∨ e.1 = "prefix").find?
      (·.1 = "prefix") = p.entries.find? (·.1 = "prefix") := by
    rw [List.find?_filter]
    refine List.find?_congr fun e _ => ?_
    rw [Bool.eq_iff_iff]
    simp only [decide_eq_true_eq]
    exact ⟨fun h => h.2, fun h => ⟨.inr h, h⟩⟩
  rw [Dictionary.get?, dictionaryEntries_required, List.find?_append, hown]
  cases hfound : p.entries.find? (·.1 = "prefix") with
  | none =>
      have hmissing : p.get? "prefix" = none := by rw [get?, hfound, Option.map_none]
      rw [contains, hmissing]
      rfl
  | some e =>
      have hthere : p.get? "prefix" = some e.2 := by rw [get?, hfound, Option.map_some]
      rw [contains, hthere]
      rfl

/-- The other entries are the properties whose key has a required start, in their order. -/
theorem filter_dictionaryEntries_required (p : Properties) (required : String)
    (setAttributes : Bool) :
    (p.dictionaryEntries ⟨some required, setAttributes⟩).filter (·.1 ≠ "prefix") =
      p.entries.filter fun e => e.1 ≠ "prefix" ∧ HasStart required e.1 := by
  have hrecorded : (if p.contains "prefix" then [] else [("prefix", required)]).filter
      (fun e => e.1 ≠ "prefix") = [] := by
    split
    · rfl
    · simp
  rw [dictionaryEntries_required, List.filter_append, hrecorded, List.nil_append,
    List.filter_filter]
  refine List.filter_congr fun e _ => ?_
  rw [Bool.eq_iff_iff, Bool.and_eq_true, decide_eq_true_eq, decide_eq_true_eq, decide_eq_true_eq]
  exact and_congr_right fun hne => or_iff_left hne

end Properties

namespace Profile

variable {source : Option Bytes} {p : Profile} {d : Dictionary}

/-- The profile has a dictionary of device properties that was read well. -/
def Carries (p : Profile) (d : Dictionary) : Prop :=
  ∃ tag, p.tag? Signature.deviceProperties = some tag ∧ tag.status = .ok ∧ tag.data = .dictionary d

theorem Carries.unique {other : Dictionary} (h : p.Carries d) (hother : p.Carries other) :
    other = d := by
  obtain ⟨tag, hfound, -, hdata⟩ := h
  obtain ⟨tag', hfound', -, hdata'⟩ := hother
  obtain rfl := Option.some.inj (hfound.symm.trans hfound')
  exact TagData.dictionary.inj (hdata'.symm.trans hdata)

theorem Consistent.carries_withDevice (h : Consistent source p) (properties : Properties) :
    (p.withDevice properties).Carries ⟨properties.entries⟩ :=
  ⟨deviceTag properties, h.tag?_withTag rfl, rfl, rfl⟩

section Kept

variable (h : Reachable source p) (hd : p.Carries d)
include h hd

/-- A header field leaves the dictionary. -/
theorem Carries.setField (f : HeaderField) (value : UInt32) : (p.setField f value).Carries d := by
  have hfind (q : Profile) : (q.tag? Signature.deviceProperties).map Tag.unmarked =
      (q.tags.map Tag.unmarked).find? (·.signature = Signature.deviceProperties) := by
    rw [List.find?_map]
    rfl
  obtain ⟨tag, hfound, hok, hdata⟩ := hd
  have hsame := (hfind (p.setField f value)).trans
    ((congrArg _ (h.unmarked_tags_setField f value)).trans (hfind p).symm)
  rw [hfound, Option.map_some] at hsame
  obtain ⟨tag', hfound', hunmarked⟩ := Option.map_eq_some_iff.mp hsame
  exact ⟨tag', hfound', (congrArg Tag.status hunmarked :).trans hok,
    (congrArg Tag.data hunmarked :).trans hdata⟩

theorem Carries.setAttributeField (f : HeaderField) (value? : Option UInt32) :
    Reachable source (p.setAttributeField f value?) ∧ (p.setAttributeField f value?).Carries d := by
  cases value? with
  | none => exact ⟨h, hd⟩
  | some value => exact ⟨.serve (.setField f value) trivial h, hd.setField h f value⟩

/-- A text under another signature can be stored, and leaves the dictionary. -/
theorem Carries.addAttributeText (signature : Signature) (text? : Option String)
    (hheader : signature ≠ Signature.header) (hother : Signature.deviceProperties ≠ signature) :
    ∃ q, p.addAttributeText signature text? = .ok q ∧ Reachable source q ∧ q.Carries d := by
  cases text? with
  | none => exact ⟨p, rfl, h, hd⟩
  | some text =>
      obtain ⟨tag, htag⟩ := exists_ofData?_textData p signature text
      obtain ⟨-, -, rfl⟩ := Tag.ofData?_eq_some htag
      have hpseudo : tag.isHeader = false := decide_eq_false hheader
      have hadd : p.addText tag.signature text = .ok (p.withTag tag) := by
        rw [addText, htag]
        exact addTag_eq p hpseudo
      obtain ⟨found, hfound, hcontent⟩ := hd
      refine ⟨p.withTag tag, hadd, ?_, found, ?_, hcontent⟩
      · have hserve := Reachable.serve (.addText tag.signature text) trivial h
        rwa [Profile.serve, hadd] at hserve
      · rw [h.consistent.tag?_withTag_of_ne hpseudo hother, hfound]

/-- Maker and model can be written, and leave the dictionary. -/
theorem Carries.setAttributes (attributes : Properties) :
    ∃ q, p.setAttributes attributes = .ok q ∧ q.Carries d := by
  obtain ⟨q, hmaker, hq, hqd⟩ := hd.addAttributeText h Signature.deviceMaker
    (attributes.get? "manufacturer") (by decide) (by decide)
  obtain ⟨r, hmodel, hr, hrd⟩ := hqd.addAttributeText hq Signature.deviceModel
    (attributes.get? "model") (by decide) (by decide)
  obtain ⟨hs, hsd⟩ := hrd.setAttributeField hr .manufacturer
    ((attributes.get? "mnft").bind Signature.ofAsciiText?)
  refine ⟨_, ?_, (hsd.setAttributeField hs .model ((attributes.get? "model_id").bind modelCode?)).2⟩
  simp only [Profile.setAttributes, hmaker, hmodel, bind, Except.bind]
  rfl

end Kept

/-- Device properties can be stored with any options, and are carried then. -/
theorem Reachable.exists_addDevice (h : Reachable source p) (properties : Properties)
    (options : EmbedOptions) :
    ∃ q, p.addDevice properties options = .ok q ∧
      q.Carries ⟨properties.dictionaryEntries options⟩ := by
  have hstored := h.consistent.carries_withDevice ⟨properties.dictionaryEntries options⟩
  have hreachable : Reachable source (p.withDevice ⟨properties.dictionaryEntries options⟩) := by
    have hserve := Reachable.serve (.addDevice ⟨properties.dictionaryEntries options⟩ {}) trivial h
    rwa [Profile.serve, addDevice_eq] at hserve
  have hadd : p.addDevice properties options =
      if options.setAttributes then
        (p.withDevice ⟨properties.dictionaryEntries options⟩).setAttributes
          (properties.attributes options)
      else .ok (p.withDevice ⟨properties.dictionaryEntries options⟩) := by
    have htag := ofData?_deviceTag ⟨properties.dictionaryEntries options⟩
    rw [addDevice, htag]
    simp only [addTag_eq p (rfl : (deviceTag _).isHeader = false)]
    rfl
  rw [hadd]
  split
  · exact hstored.setAttributes hreachable (properties.attributes options)
  · exact ⟨_, rfl, hstored⟩

/-- Device properties can be stored with a required start. What is carried then are, next to the
starts, those properties in their order whose key starts with one of its non-empty parts. As the
starts the properties' own ones are recorded when there are any, and else the required ones. -/
theorem required_starts_recorded (h : Reachable source p) (properties : Properties)
    (required : String) (setAttributes : Bool) :
    ∃ q d, p.addDevice properties ⟨some required, setAttributes⟩ = .ok q ∧ q.Carries d ∧
      d.get? "prefix" = some ((properties.get? "prefix").getD required) ∧
      d.entries.filter (·.1 ≠ "prefix") =
        properties.entries.filter fun e => e.1 ≠ "prefix" ∧ Properties.HasStart required e.1 := by
  obtain ⟨q, hadd, hcarried⟩ := h.exists_addDevice properties ⟨some required, setAttributes⟩
  exact ⟨q, _, hadd, hcarried,
    properties.get?_dictionaryEntries_required required setAttributes,
    properties.filter_dictionaryEntries_required required setAttributes⟩

/-- Properties of a monitor, some without a start and one whose key begins like `prefix`. -/
def startedMonitor : Properties :=
  ⟨[("EDID_model", "View 24"), ("host", "desk"), ("prefixed", "no"), ("xserial", "8"),
    ("EDID_mnft", "ACM")]⟩

theorem required_starts_recorded_startedMonitor :
    ∃ q d, empty.addDevice startedMonitor ⟨some "EDID_..x.pre", true⟩ = .ok q ∧ q.Carries d ∧
      d.get? "prefix" = some "EDID_..x.pre" ∧
      d.entries.filter (·.1 ≠ "prefix") =
        [("EDID_model", "View 24"), ("prefixed", "no"), ("xserial", "8"),
          ("EDID_mnft", "ACM")] := by
  obtain ⟨q, d, hadd, hcarried, hstarts, hothers⟩ :=
    required_starts_recorded .empty startedMonitor "EDID_..x.pre" true
  refine ⟨q, d, hadd, hcarried, hstarts.trans ?_, hothers.trans ?_⟩
  · decide +kernel
  · decide +kernel

/-- Properties with a start of their own. -/
def selfStarted : Properties := ⟨[("prefix", "EDID_"), ("host", "desk")]⟩

/-- The required start is not recorded where the properties bring another. -/
theorem addDevice_selfStarted :
    ∃ q d, empty.addDevice selfStarted ⟨some "ho", false⟩ = .ok q ∧
      (∀ other, q.Carries other ↔ other = d) ∧ d.get? "prefix" = some "EDID_" ∧
      d.get? "prefix" ≠ some "ho" := by
  obtain ⟨q, hadd, hcarried⟩ := Reachable.empty.exists_addDevice selfStarted ⟨some "ho", false⟩
  refine ⟨q, _, hadd, fun other => ⟨hcarried.unique, fun hsame => hsame ▸ hcarried⟩, ?_, ?_⟩
  · decide +kernel
  · decide +kernel

end Profile

end IccProfile
