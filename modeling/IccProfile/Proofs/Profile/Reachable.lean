import IccProfile.Profile.Request
import IccProfile.Proofs.Profile.TagList
import Mathlib.Logic.Relation

/-!
# Reachable profiles

A profile comes from an origin: it is empty, read from bytes, or a pattern for a header
field, a file name or a device. From there it goes through copies and requests, in any
order. `Reachable source p` says so; `source` is the byte string that was read, if any.

All that a request does is a sequence of a few moves (`moves_serve`), and so are the
patterns. An invariant of the empty profile and of a profile that was just read holds
of every reachable profile as soon as each `Move` keeps it (`Reachable.invariant`).
-/

set_option autoImplicit false

namespace IccProfile

/-- A request whose tag is one that can be made, or the pseudo tag of some header. -/
def Request.Admissible : Request → Prop
  | .addTag tag _ => tag.Built ∨ ∃ header, tag = Tag.ofHeader header
  | _ => True

namespace Profile

/-- A copy of a profile, what it remembers included. -/
def copy (p : Profile) : Profile :=
  { fileName := p.fileName, raw := p.raw, header := p.header, tagList := p.tagList,
    modified := p.modified, knownId := p.knownId, metaFilter := p.metaFilter }

/-- The profiles that come from an origin through copies and requests. -/
inductive Reachable : Option Bytes → Profile → Prop
  | empty : Reachable none empty
  | ofBytes {flags : LoadFlags} {data : Bytes} {p : Profile}
      (h : ofBytesWith flags data = .ok p) : Reachable (some data) p
  | ofField (f : HeaderField) (value : UInt32) : Reachable none (ofField f value)
  | ofFileName (name : Path) : Reachable none (ofFileName name)
  | ofDevice {device : Device} {p : Profile} (h : ofDevice device = .ok p) : Reachable none p
  | copy {source : Option Bytes} {p : Profile} : Reachable source p → Reachable source p.copy
  | serve {source : Option Bytes} {p : Profile} (request : Request) (h : request.Admissible) :
      Reachable source p → Reachable source (p.serve request).2

/-- The single steps that requests are made of. -/
inductive Move : Profile → Profile → Prop
  | materialize (p : Profile) : Move p p.materialized
  | rememberId (p : Profile) : Move p { p with knownId := some p.freshId }
  | annotate (p : Profile) (fileName : Option Path) (metaFilter : Option Device) :
      Move p { p with fileName, metaFilter }
  | setField (p : Profile) (f : HeaderField) (value : UInt32) : Move p (p.setField f value)
  | insertTag (p : Profile) {tag : Tag} (hbuilt : tag.Built) (hheader : tag.isHeader = false)
      (position : Option Nat) : Move p (p.setTags (insertTag p.allTags tag position))
  | eraseTag (p : Profile) {signature : Signature} (h : signature ≠ Signature.header) :
      Move p (p.setTags (p.allTags.eraseP (·.signature = signature)))
  | repairId (p : Profile) : Move p p.repairId

/-- Any number of steps. -/
abbrev Moves : Profile → Profile → Prop := Relation.ReflTransGen Move

variable {p q : Profile}

/-! ## Changes as steps -/

theorem moves_addTag {tag : Tag} {position : Option Nat} (hbuilt : tag.Built)
    (h : p.addTag tag position = .ok q) : Moves p q := by
  obtain ⟨hheader, rfl⟩ := (addTag_ok_iff p).mp h
  exact .single (.insertTag p hbuilt hheader position)

theorem moves_addText {signature : Signature} {text : String}
    (h : p.addText signature text = .ok q) : Moves p q := by
  unfold addText at h
  cases hdata : Tag.ofData? signature (p.textData signature text) with
  | none =>
      rw [hdata] at h
      cases h
  | some tag =>
      rw [hdata] at h
      exact moves_addTag (.ofData hdata) h

theorem moves_addAttributeText {signature : Signature} {text? : Option String}
    (h : p.addAttributeText signature text? = .ok q) : Moves p q := by
  cases text? with
  | none =>
      obtain rfl := Except.ok.inj h
      exact .refl
  | some text => exact moves_addText h

theorem moves_setAttributeField (f : HeaderField) (value? : Option UInt32) :
    Moves p (p.setAttributeField f value?) := by
  cases value? with
  | none => exact .refl
  | some value => exact .single (.setField p f value)

theorem moves_setAttributes {attributes : Properties}
    (h : p.setAttributes attributes = .ok q) : Moves p q := by
  unfold setAttributes at h
  cases hmaker : p.addAttributeText Signature.deviceMaker (attributes.get? "manufacturer") with
  | error error =>
      rw [hmaker] at h
      cases h
  | ok withMaker =>
      rw [hmaker] at h
      cases hmodel : withMaker.addAttributeText Signature.deviceModel (attributes.get? "model") with
      | error error =>
          simp only [bind, Except.bind, hmodel] at h
          cases h
      | ok withModel =>
          simp only [bind, Except.bind, hmodel] at h
          obtain rfl := Except.ok.inj h
          -- two text tags, then two header fields
          exact (moves_addAttributeText hmaker).trans ((moves_addAttributeText hmodel).trans
            ((moves_setAttributeField ..).trans (moves_setAttributeField ..)))

theorem moves_addDevice {properties : Properties} {options : EmbedOptions}
    (h : p.addDevice properties options = .ok q) : Moves p q := by
  unfold addDevice at h
  cases hdata : Tag.ofData? Signature.deviceProperties
      (.dictionary ⟨properties.dictionaryEntries options⟩) with
  | none =>
      rw [hdata] at h
      cases h
  | some tag =>
      rw [hdata] at h
      cases htag : p.addTag tag none with
      | error error =>
          simp only [bind, Except.bind, htag] at h
          cases h
      | ok withTag =>
          simp only [bind, Except.bind, htag] at h
          have hstart := moves_addTag (.ofData hdata) htag
          split at h
          · exact hstart.trans (moves_setAttributes h)
          · obtain rfl := Except.ok.inj h
            exact hstart

theorem moves_removeTag (signature : Signature) : Moves p (p.removeTag signature).2 := by
  rcases removeTag_eq p signature with ⟨hsignature, -, heq⟩ | ⟨-, heq | heq⟩
  · rw [heq]
    exact .single (.eraseTag p hsignature)
  · rw [heq]
  · rw [heq]
    exact .single (.materialize p)

/-! ## Questions as steps -/

theorem moves_afterWriting (p : Profile) : Moves p p.afterWriting := by
  unfold afterWriting
  split
  · exact .refl
  · exact .single (.materialize p)

/-- What is remembered as the identity is the same before and after the tag list is read. -/
theorem freshId_afterWriting (p : Profile) : p.afterWriting.freshId = p.freshId := by
  unfold afterWriting
  split <;> rfl

theorem moves_afterId (p : Profile) : Moves p p.afterId := by
  unfold afterId
  split
  · exact .refl
  · split
    · exact .single (.rememberId p)
    -- the list is read before the identity is remembered
    · rw [← freshId_afterWriting p]
      exact (moves_afterWriting p).tail (.rememberId _)

theorem moves_afterCheck (p : Profile) : Moves p p.afterCheck := by
  unfold afterCheck
  split
  · exact moves_afterWriting p
  · exact .refl

/-! ## Requests and origins -/

/-- An answered change is made of steps when the change is. -/
theorem moves_answerChange {change : Except Error Profile}
    (h : ∀ q, change = .ok q → Moves p q) : Moves p (p.answerChange change).2 := by
  cases change with
  | error error => exact .refl
  | ok q => exact h q rfl

/-- Serving a request is a sequence of steps. -/
theorem moves_serve (p : Profile) {request : Request} (h : request.Admissible) :
    Moves p (p.serve request).2 := by
  have hread : Moves p p.materialized := .single (.materialize p)
  cases request with
  | setField field value => exact .single (.setField p field value)
  | addText signature text => exact moves_answerChange fun _ => moves_addText
  | addTag tag position =>
      rcases h with hbuilt | ⟨header, rfl⟩
      · exact moves_answerChange fun _ => moves_addTag hbuilt
      -- the pseudo tag is refused
      · exact moves_answerChange fun q hq => nomatch ((addTag_ok_iff p).mp hq).1
  | removeTag signature => exact moves_removeTag signature
  | addDevice properties options => exact moves_answerChange fun _ => moves_addDevice
  | repairId => exact .single (.repairId p)
  | setFileName name => exact .single (.annotate p name p.metaFilter)
  | setMetaFilter device => exact .single (.annotate p p.fileName device)
  | field field => exact .refl
  | header => exact .refl
  | headerBytes => exact .refl
  | rawBytes => exact .refl
  | fileName => exact .refl
  | metaFilter => exact .refl
  | materialize => exact hread
  | tags => exact hread
  | headerTag => exact hread
  | tagAt position => exact hread
  | tagOf signature => exact hread
  | textFor signature language country => exact hread
  | texts signature language? country? => exact hread
  | deviceProperties => exact hread
  | toBytes => exact moves_afterWriting p
  | id force =>
      cases force with
      | false => exact moves_afterId p
      | true => exact moves_afterWriting p
  | checkId => exact moves_afterCheck p

/-- The pattern of a device comes from the empty profile. -/
theorem moves_ofDevice {device : Device} (h : ofDevice device = .ok p) : Moves empty p := by
  unfold ofDevice at h
  cases hadd : empty.addDevice device.properties {} with
  | error error =>
      rw [hadd] at h
      cases h
  | ok pattern =>
      rw [hadd] at h
      obtain rfl := Except.ok.inj h
      exact ((moves_addDevice hadd).tail (.materialize pattern)).tail (.annotate _ _ _)

/-- What holds of the empty profile and of profiles that were just read, and is kept by every
step, holds of every reachable profile. -/
theorem Reachable.invariant {Inv : Option Bytes → Profile → Prop} (hempty : Inv none Profile.empty)
    (hread : ∀ flags data p, ofBytesWith flags data = .ok p → Inv (some data) p)
    (hmove : ∀ source p q, Inv source p → Move p q → Inv source q) {source : Option Bytes}
    (h : Reachable source p) : Inv source p := by
  -- from one step to any number of them
  have hmoves : ∀ source p q, Inv source p → Moves p q → Inv source q := by
    intro source p q hp hpq
    induction hpq with
    | refl => exact hp
    | tail _ hlast ih => exact hmove source _ _ ih hlast
  induction h with
  | empty => exact hempty
  | ofBytes h => exact hread _ _ _ h
  | ofField f value => exact hmove none _ _ hempty (.setField Profile.empty f value)
  | ofFileName name => exact hmove none _ _ hempty (.annotate Profile.empty (some name) none)
  | ofDevice h => exact hmoves none _ _ hempty (moves_ofDevice h)
  | copy _ ih => exact ih
  | serve request hadmissible _ ih => exact hmoves _ _ _ ih (moves_serve _ hadmissible)

end Profile

end IccProfile
