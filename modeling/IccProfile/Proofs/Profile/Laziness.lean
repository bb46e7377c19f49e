import IccProfile.Proofs.Profile.Container
import IccProfile.Proofs.Profile.TagOrder
import IccProfile.Proofs.Profile.View
import Mathlib.Data.List.InsertIdx

/-!
# Reading the tag list early

Questions that do nothing but read the tag list can be asked at any time. Two profiles
are alike to a view when they differ in nothing but their tag lists, and the view sees
the same tags in both (`Alike`); so are a profile and the same one with its list read.
Alike profiles give alike answers and stay alike, request by request (`Alike.serve`).

`answers_early` draws the conclusion for whole runs: reading the list early changes no
answer but for the preferred color modules of tags, and not even these as long as the
field of the color module is not set, provided that no ID is stored or the tags lie apart
from it. `readings_seen` shows that both conditions are needed: a tag list that was
read early keeps the color module and the ID that the header had then.
-/

set_option autoImplicit false

namespace IccProfile

/-- An answer to a view of tags. -/
def Reply.view (view : Tag → Tag) : Reply → Reply
  | .tags seen => .tags (seen.map view)
  | .tag found => .tag (found.map view)
  | reply => reply

/-- A view that hides nothing sees an answer as it is. -/
theorem Reply.view_plain : Reply.view (fun tag => tag) = fun reply => reply := by
  funext reply
  cases reply <;> simp [Reply.view]

/-- A question that does nothing but read the tag list. -/
def Request.isReading : Request → Bool
  | .materialize | .tags => true
  | _ => false

/-- A request that leaves the tags that were read from a byte string as a view sees them. -/
def Request.Keeps (view : Tag → Tag) (data : Bytes) : Request → Prop
  | .setField f _ => f = .cmm → view = Tag.unmarked
  | .repairId => Profile.ApartFromId data
  | _ => True

/-- A request with the readings that come before it. -/
structure Call where
  readings : List Request
  request : Request
  isReading : ∀ reading ∈ readings, reading.isReading = true

namespace Profile

/-- The answers to requests when the tag list is read before them. -/
def answers (p : Profile) : List Call → List Reply
  | [] => []
  | call :: rest =>
    let (reply, q) := (p.serveAll call.readings).2.serve call.request
    reply :: q.answers rest

/-- What a view sees of a profile: everything, and the tags in place of the tag list. -/
def appearance (view : Tag → Tag) (p : Profile) : Profile :=
  { p with tagList := some (p.tags.map view) }

variable {view : Tag → Tag} {data : Bytes} {p q : Profile}

/-! ## Lists to a view -/

section Lists

variable (hview : Tag.IsView view) (tags : List Tag)
include hview

theorem insertSeen_map (tag : Tag) (position : Option Nat) :
    (insertSeen tags tag position).map view =
      insertSeen (tags.map view) (view tag) position := by
  simp [insertSeen, List.map_insertIdx, List.filter_map, Function.comp_def, hview.signature_eq]

theorem eraseP_map (signature : Signature) :
    (tags.eraseP (·.signature = signature)).map view =
      (tags.map view).eraseP (·.signature = signature) := by
  simp [List.eraseP_map, Function.comp_def, hview.signature_eq]

theorem find?_map (signature : Signature) :
    (tags.find? (·.signature = signature)).map view =
      (tags.map view).find? (·.signature = signature) := by
  simp only [List.find?_map, Function.comp_def, hview.signature_eq]

/-- Tags that a view does not tell apart are stored alike. -/
theorem sameStored_of_map_eq {tags others : List Tag} (h : others.map view = tags.map view) :
    List.Forall₂ Tag.SameStored tags others := by
  rw [← List.forall₂_eq_eq_eq, List.forall₂_map_left_iff, List.forall₂_map_right_iff] at h
  refine h.flip.imp ?_
  intro tag other hsame
  obtain ⟨hsignature, htype, hblock⟩ := hview.sameStored tag
  obtain ⟨hsignature', htype', hblock'⟩ := hview.sameStored other
  rw [hsame] at hsignature' htype' hblock'
  exact ⟨hsignature'.trans hsignature.symm, htype'.trans htype.symm, hblock'.trans hblock.symm⟩

end Lists

/-! ## Profiles that look alike -/

/-- Two profiles that come from one byte string and look alike to a view. -/
structure Alike (view : Tag → Tag) (data : Bytes) (p q : Profile) : Prop where
  appearance_eq : appearance view q = appearance view p
  left : Reachable (some data) p
  right : Reachable (some data) q

namespace Alike

variable (h : Alike view data p q)
include h

theorem fileName_eq : q.fileName = p.fileName := (congrArg Profile.fileName h.appearance_eq :)

theorem raw_eq : q.raw = p.raw := (congrArg Profile.raw h.appearance_eq :)

theorem header_eq : q.header = p.header := (congrArg Profile.header h.appearance_eq :)

theorem modified_eq : q.modified = p.modified := (congrArg Profile.modified h.appearance_eq :)

theorem knownId_eq : q.knownId = p.knownId := (congrArg Profile.knownId h.appearance_eq :)

theorem metaFilter_eq : q.metaFilter = p.metaFilter :=
  (congrArg Profile.metaFilter h.appearance_eq :)

theorem tags_eq : q.tags.map view = p.tags.map view :=
  Option.some.inj (congrArg Profile.tagList h.appearance_eq :)

theorem field_eq (f : HeaderField) : q.field f = p.field f := by
  rw [field, field, h.header_eq]

theorem headerTag?_eq : q.headerTag? = p.headerTag? := by
  have hp := h.left.consistent.shows.head?_filter
  have hq := h.right.consistent.shows.head?_filter
  rw [headerTag?, headerTag?, hp, hq, h.header_eq]

section Tags

variable (hview : Tag.IsView view)
include hview

theorem tag?_eq (signature : Signature) :
    (q.tag? signature).map view = (p.tag? signature).map view := by
  rw [tag?, tag?, find?_map hview, find?_map hview, h.tags_eq]

/-- The first tag of a signature is missing in both, or has one state and one content. -/
theorem tag?_cases (signature : Signature) :
    (p.tag? signature = none ∧ q.tag? signature = none) ∨
      ∃ tag other, p.tag? signature = some tag ∧ q.tag? signature = some other ∧
        other.isCorrupted = tag.isCorrupted ∧ other.data = tag.data := by
  have hsame := h.tag?_eq hview signature
  cases hp : p.tag? signature with
  | none =>
      rw [hp, Option.map_none, Option.map_eq_none_iff] at hsame
      exact .inl ⟨rfl, hsame⟩
  | some tag =>
      rw [hp, Option.map_some] at hsame
      obtain ⟨other, hother, hseen⟩ := Option.map_eq_some_iff.mp hsame
      refine .inr ⟨tag, other, rfl, hother, ?_, ?_⟩
      · rw [← hview.isCorrupted_eq, hseen, hview.isCorrupted_eq]
      · rw [← hview.data_eq, hseen, hview.data_eq]

theorem textFor_eq (signature : Signature) (language country : String) :
    q.textFor signature language country = p.textFor signature language country := by
  rcases h.tag?_cases hview signature with ⟨hp, hq⟩ | ⟨tag, other, hp, hq, hcorrupted, hdata⟩
  · simp only [textFor, hp, hq]
  · simp only [textFor, hp, hq, hcorrupted, hdata]

theorem texts_eq (signature : Signature) (language? country? : Option String) :
    (q.tag? signature).map (fun tag => tag.texts language? country?) =
      (p.tag? signature).map fun tag => tag.texts language? country? := by
  rcases h.tag?_cases hview signature with ⟨hp, hq⟩ | ⟨tag, other, hp, hq, hcorrupted, hdata⟩
  · simp only [hp, hq]
  · simp only [hp, hq, Option.map_some, Tag.texts, hcorrupted, hdata]

theorem deviceProperties_eq : q.deviceProperties = p.deviceProperties := by
  have hstored : q.storedProperties = p.storedProperties := by
    rcases h.tag?_cases hview Signature.deviceProperties with
      ⟨hp, hq⟩ | ⟨tag, other, hp, hq, hcorrupted, hdata⟩
    · simp only [storedProperties, hp, hq]
    · simp only [storedProperties, hp, hq, hcorrupted, hdata]
  simp only [deviceProperties, hstored, model, maker, text, h.textFor_eq hview]

/-! ### The written form -/

theorem writtenTags_alike : List.Forall₂ Tag.SameStored p.writtenTags q.writtenTags := by
  have hkept : ∀ tags : List Tag, (tags.filter fun tag => !tag.block.isEmpty).map view =
      (tags.map view).filter fun tag => !tag.block.isEmpty := by
    intro tags
    simp [List.filter_map, Function.comp_def, ← (hview.sameStored _).block_eq]
  apply sameStored_of_map_eq hview
  rw [writtenTags, writtenTags, hkept, hkept, h.tags_eq]

theorem serialize_eq : q.serialize = p.serialize := by
  have hwritten := h.writtenTags_alike hview
  have hheader : q.sizedHeader = p.sizedHeader := by
    rw [sizedHeader, sizedHeader, blocks_congr hwritten, hwritten.length_eq, writtenHeader,
      writtenHeader, h.header_eq]
  rw [Profile.serialize_eq, Profile.serialize_eq, hheader, container_congr hwritten]

omit hview in
theorem unchangedBytes?_eq : q.unchangedBytes? = p.unchangedBytes? := by
  rw [unchangedBytes?, unchangedBytes?, h.modified_eq, h.raw_eq]

theorem toBytes_eq : q.toBytes = p.toBytes := by
  simp only [toBytes, h.unchangedBytes?_eq, h.serialize_eq hview]

theorem computedId_eq : q.computedId = p.computedId := by
  simp only [computedId, h.unchangedBytes?_eq, h.serialize_eq hview]

theorem checkId_eq : q.checkId = p.checkId := by
  rw [checkId, checkId, embeddedId?, embeddedId?, h.header_eq, h.computedId_eq hview]

theorem freshId_eq : q.freshId = p.freshId := by
  simp only [freshId, embeddedId?, h.header_eq, h.modified_eq, h.computedId_eq hview]

theorem id_eq : q.id = p.id := by
  rw [id, id, h.knownId_eq, h.freshId_eq hview]

end Tags

end Alike

/-! ## What requests do to the appearance -/

theorem appearance_afterWriting (p : Profile) :
    appearance view p.afterWriting = appearance view p := by
  unfold afterWriting
  split <;> rfl

theorem appearance_afterCheck (p : Profile) :
    appearance view p.afterCheck = appearance view p := by
  unfold afterCheck
  split
  · exact appearance_afterWriting p
  · rfl

/-- After the identity was asked for, it is remembered. -/
theorem appearance_afterId (p : Profile) :
    appearance view p.afterId = { appearance view p with knownId := some p.id } := by
  cases hknown : p.knownId with
  | some id => simp only [afterId, appearance, Profile.id, hknown, Option.getD_some]
  | none =>
      have hid : p.id = p.freshId := by rw [Profile.id, hknown, Option.getD_none]
      have hread : appearance view p.afterWriting = appearance view p := appearance_afterWriting p
      simp only [afterId, hknown, hid]
      split
      · rfl
      · exact congrArg (fun q : Profile => { q with knownId := some p.freshId }) hread

section Changes

variable (h : Reachable (some data) p)
include h

/-- A profile that was read from bytes keeps them and its header. -/
theorem headed_of_read : ∃ header, p.header = some header := by
  apply Option.isSome_iff_exists.mp
  apply h.header_of_raw
  have hraw := h.consistent.raw_eq
  cases hsome : p.raw with
  | none =>
      rw [hsome] at hraw
      cases hraw
  | some raw => rfl

theorem appearance_setField {f : HeaderField} (hf : f = .cmm → view = Tag.unmarked)
    (value : UInt32) :
    appearance view (p.setField f value) =
      { appearance view p with
        header := some ((p.header.getD HeaderBlock.zero).write f value)
        modified := true
        knownId := none } := by
  obtain ⟨header, hheader⟩ := headed_of_read h
  rw [appearance, tags_setField_view hheader hf, setField, syncHeaderTag_eq]
  rfl

theorem appearance_repairId (hapart : ApartFromId data) :
    appearance view p.repairId =
      { appearance view p with
        header := p.header.map p.computedId.stampHeader
        raw := p.raw.map p.computedId.stamp
        knownId := some p.computedId } := by
  obtain ⟨header, hheader⟩ := headed_of_read h
  have htags : p.repairId.tags = p.tags := by
    apply tags_repairId_of_apart hheader
    intro raw hraw
    -- the raw bytes are those that were read up to the ID
    obtain ⟨start, hstart, hstamp⟩ := h.consistent.source_of_raw hraw
    obtain rfl := Option.some.inj hstart
    rwa [← apartFromId_stamp_iff ProfileId.zero, ← hstamp, apartFromId_stamp_iff]
  rw [appearance, htags, repairId_eq, syncHeaderTag_eq, stamped, afterWriting_eq]
  rfl

theorem appearance_insertTag (hview : Tag.IsView view) {tag : Tag} (htag : tag.isHeader = false)
    (position : Option Nat) :
    appearance view (p.setTags (insertTag p.allTags tag position)) =
      (appearance view p).setTags (insertSeen (p.tags.map view) (view tag) position) := by
  have htags := (h.consistent.shows.insertTag htag position).withoutHeader_eq
  rw [← insertSeen_map hview, ← htags]
  rfl

theorem appearance_eraseTag (hview : Tag.IsView view) {signature : Signature}
    (hsignature : signature ≠ Signature.header) :
    appearance view (p.setTags (p.allTags.eraseP (·.signature = signature))) =
      (appearance view p).setTags ((p.tags.map view).eraseP (·.signature = signature)) := by
  have htags := (h.consistent.shows.eraseP hsignature).withoutHeader_eq
  rw [← eraseP_map hview, ← htags]
  rfl

end Changes

/-! ## Alike outcomes -/

/-- Two changes that fail alike, or succeed with alike profiles. -/
inductive AlikeOutcome (view : Tag → Tag) (data : Bytes) :
    Except Error Profile → Except Error Profile → Prop
  | error (error : Error) : AlikeOutcome view data (.error error) (.error error)
  | ok {p q : Profile} (h : Alike view data p q) : AlikeOutcome view data (.ok p) (.ok q)

theorem AlikeOutcome.bind {x y : Except Error Profile} {f : Profile → Except Error Profile}
    (h : AlikeOutcome view data x y)
    (hf : ∀ p q, Alike view data p q → AlikeOutcome view data (f p) (f q)) :
    AlikeOutcome view data (x >>= f) (y >>= f) := by
  cases h with
  | error error => exact .error error
  | ok h => exact hf _ _ h

theorem Reachable.addTag {source : Option Bytes} {tag : Tag} {position : Option Nat}
    (h : Reachable source p) (hbuilt : tag.Built) (hadd : p.addTag tag position = .ok q) :
    Reachable source q := by
  have hserve := h.serve (.addTag tag position) (.inl hbuilt)
  rwa [Profile.serve, hadd] at hserve

namespace Alike

variable (h : Alike view data p q) (hview : Tag.IsView view)
include h

theorem materialized : Alike view data p.materialized q.materialized :=
  ⟨h.appearance_eq, .serve .materialize trivial h.left, .serve .materialize trivial h.right⟩

theorem setField {f : HeaderField} (hf : f = .cmm → view = Tag.unmarked) (value : UInt32) :
    Alike view data (p.setField f value) (q.setField f value) := by
  refine ⟨?_, .serve (.setField f value) trivial h.left, .serve (.setField f value) trivial h.right⟩
  rw [appearance_setField h.left hf, appearance_setField h.right hf, h.appearance_eq, h.header_eq]

include hview

theorem addTag {tag : Tag} (hbuilt : tag.Built) (position : Option Nat) :
    AlikeOutcome view data (p.addTag tag position) (q.addTag tag position) := by
  cases htag : tag.isHeader with
  | true =>
      simp only [Profile.addTag, htag, if_true]
      exact .error _
  | false =>
      have hp : p.addTag tag position = .ok (p.setTags (insertTag p.allTags tag position)) :=
        (addTag_ok_iff p).mpr ⟨htag, rfl⟩
      have hq : q.addTag tag position = .ok (q.setTags (insertTag q.allTags tag position)) :=
        (addTag_ok_iff q).mpr ⟨htag, rfl⟩
      rw [hp, hq]
      refine .ok ⟨?_, h.left.addTag hbuilt hp, h.right.addTag hbuilt hq⟩
      rw [appearance_insertTag h.left hview htag, appearance_insertTag h.right hview htag,
        h.appearance_eq, h.tags_eq]

theorem addText (signature : Signature) (text : String) :
    AlikeOutcome view data (p.addText signature text) (q.addText signature text) := by
  have hsame : q.textData signature text = p.textData signature text := by
    rw [textData, textData, version, version, h.field_eq]
  unfold Profile.addText
  rw [hsame]
  cases hdata : Tag.ofData? signature (p.textData signature text) with
  | none => exact .error _
  | some tag => exact h.addTag hview (.ofData hdata) none

theorem addAttributeText (signature : Signature) (text? : Option String) :
    AlikeOutcome view data (p.addAttributeText signature text?)
      (q.addAttributeText signature text?) := by
  cases text? with
  | none => exact .ok h
  | some text => exact h.addText hview signature text

omit hview in
theorem setAttributeField {f : HeaderField} (hf : f ≠ .cmm) (value? : Option UInt32) :
    Alike view data (p.setAttributeField f value?) (q.setAttributeField f value?) := by
  cases value? with
  | none => exact h
  | some value => exact h.setField (fun heq => absurd heq hf) value

theorem setAttributes (attributes : Properties) :
    AlikeOutcome view data (p.setAttributes attributes) (q.setAttributes attributes) := by
  unfold Profile.setAttributes
  -- two text tags, then two header fields
  apply (h.addAttributeText hview _ _).bind
  intro p q h
  apply (h.addAttributeText hview _ _).bind
  intro p q h
  exact .ok ((h.setAttributeField (by decide) _).setAttributeField (by decide) _)

theorem addDevice (properties : Properties) (options : EmbedOptions) :
    AlikeOutcome view data (p.addDevice properties options) (q.addDevice properties options) := by
  unfold Profile.addDevice
  cases hdata : Tag.ofData? Signature.deviceProperties
      (.dictionary ⟨properties.dictionaryEntries options⟩) with
  | none => exact .error _
  | some tag =>
      apply (h.addTag hview (.ofData hdata) none).bind
      intro p q h
      split
      · exact h.setAttributes hview _
      · exact .ok h

/-! ### Requests -/

omit h hview in
/-- Alike outcomes are answered alike. -/
theorem answerChange (h : Alike view data p q) {x y : Except Error Profile}
    (hxy : AlikeOutcome view data x y) :
    (q.answerChange y).1.view view = (p.answerChange x).1.view view ∧
      Alike view data (p.answerChange x).2 (q.answerChange y).2 := by
  cases hxy with
  | error error => exact ⟨rfl, h⟩
  | ok hok => exact ⟨rfl, hok⟩

theorem removeTag (signature : Signature) :
    (Reply.tag (q.removeTag signature).1).view view =
        (Reply.tag (p.removeTag signature).1).view view ∧
      appearance view (q.removeTag signature).2 = appearance view (p.removeTag signature).2 := by
  unfold Profile.removeTag
  split
  · exact ⟨rfl, h.appearance_eq⟩
  · next hsignature =>
      have hsame := h.tag?_eq hview signature
      rcases h.tag?_cases hview signature with ⟨hp, hq⟩ | ⟨tag, other, hp, hq, -⟩
      · rw [hp, hq]
        exact ⟨rfl, h.appearance_eq⟩
      · rw [hp, hq] at hsame
        rw [hp, hq]
        refine ⟨congrArg Reply.tag hsame, ?_⟩
        simp only [appearance_eraseTag h.left hview hsignature,
          appearance_eraseTag h.right hview hsignature, h.appearance_eq, h.tags_eq]

/-- Alike profiles give alike answers to a request that keeps the tags, and what they are
afterwards looks alike. -/
theorem view_serve {request : Request} (hadmissible : request.Admissible)
    (hkeeps : request.Keeps view data) :
    (q.serve request).1.view view = (p.serve request).1.view view ∧
      appearance view (q.serve request).2 = appearance view (p.serve request).2 := by
  have hread : appearance view q.materialized = appearance view p.materialized := h.appearance_eq
  have hwriting : appearance view q.afterWriting = appearance view p.afterWriting := by
    rw [appearance_afterWriting, appearance_afterWriting, h.appearance_eq]
  cases request with
  | setField field value => exact ⟨rfl, (h.setField hkeeps value).appearance_eq⟩
  | addText signature text =>
      obtain ⟨hreply, hnext⟩ := h.answerChange (h.addText hview signature text)
      exact ⟨hreply, hnext.appearance_eq⟩
  | addTag tag position =>
      rcases hadmissible with hbuilt | ⟨header, rfl⟩
      · obtain ⟨hreply, hnext⟩ := h.answerChange (h.addTag hview hbuilt position)
        exact ⟨hreply, hnext.appearance_eq⟩
      -- the pseudo tag is refused
      · exact ⟨rfl, h.appearance_eq⟩
  | removeTag signature => exact h.removeTag hview signature
  | addDevice properties options =>
      obtain ⟨hreply, hnext⟩ := h.answerChange (h.addDevice hview properties options)
      exact ⟨hreply, hnext.appearance_eq⟩
  | repairId =>
      refine ⟨congrArg Reply.id (h.computedId_eq hview), ?_⟩
      simp only [Profile.serve, appearance_repairId h.left hkeeps,
        appearance_repairId h.right hkeeps, h.appearance_eq, h.header_eq, h.raw_eq,
        h.computedId_eq hview]
  | setFileName name =>
      exact ⟨rfl, congrArg (fun p : Profile => { p with fileName := name }) h.appearance_eq⟩
  | setMetaFilter device =>
      exact ⟨rfl, congrArg (fun p : Profile => { p with metaFilter := device }) h.appearance_eq⟩
  | field field => exact ⟨congrArg Reply.word (h.field_eq field), h.appearance_eq⟩
  | header =>
      refine ⟨?_, h.appearance_eq⟩
      rw [Profile.serve, Profile.serve, headerParts?, headerParts?, h.header_eq]
  | headerBytes =>
      refine ⟨?_, h.appearance_eq⟩
      rw [Profile.serve, Profile.serve, h.header_eq]
  | rawBytes => exact ⟨congrArg Reply.bytes h.raw_eq, h.appearance_eq⟩
  | fileName => exact ⟨congrArg Reply.fileName h.fileName_eq, h.appearance_eq⟩
  | metaFilter => exact ⟨congrArg Reply.device h.metaFilter_eq, h.appearance_eq⟩
  | materialize => exact ⟨rfl, hread⟩
  | tags => exact ⟨congrArg Reply.tags h.tags_eq, hread⟩
  | headerTag =>
      refine ⟨?_, hread⟩
      rw [Profile.serve, Profile.serve, h.headerTag?_eq]
  | tagAt position =>
      refine ⟨congrArg Reply.tag ?_, hread⟩
      rw [← List.getElem?_map, ← List.getElem?_map, h.tags_eq]
  | tagOf signature => exact ⟨congrArg Reply.tag (h.tag?_eq hview signature), hread⟩
  | textFor signature language country =>
      exact ⟨congrArg Reply.text (h.textFor_eq hview signature language country), hread⟩
  | texts signature language? country? =>
      exact ⟨congrArg Reply.texts (h.texts_eq hview signature language? country?), hread⟩
  | deviceProperties => exact ⟨congrArg Reply.properties (h.deviceProperties_eq hview), hread⟩
  | toBytes => exact ⟨congrArg (Reply.bytes ∘ some) (h.toBytes_eq hview), hwriting⟩
  | id force =>
      cases force with
      | true => exact ⟨congrArg Reply.id (h.computedId_eq hview), hwriting⟩
      | false =>
          refine ⟨congrArg Reply.id (h.id_eq hview), ?_⟩
          simp only [Profile.serve, appearance_afterId, h.appearance_eq, h.id_eq hview]
  | checkId =>
      refine ⟨congrArg Reply.check (h.checkId_eq hview), ?_⟩
      rw [Profile.serve, Profile.serve, appearance_afterCheck, appearance_afterCheck,
        h.appearance_eq]

/-- Alike profiles give alike answers and stay alike. -/
theorem serve {request : Request} (hadmissible : request.Admissible)
    (hkeeps : request.Keeps view data) :
    (q.serve request).1.view view = (p.serve request).1.view view ∧
      Alike view data (p.serve request).2 (q.serve request).2 := by
  obtain ⟨hreply, hnext⟩ := h.view_serve hview hadmissible hkeeps
  exact ⟨hreply, hnext, .serve request hadmissible h.left, .serve request hadmissible h.right⟩

omit hview in
/-- Reading the list leaves profiles alike. -/
theorem readings {requests : List Request}
    (hreadings : ∀ reading ∈ requests, reading.isReading = true) :
    Alike view data p (q.serveAll requests).2 := by
  induction requests generalizing q with
  | nil => exact h
  | cons reading rest ih =>
      obtain ⟨hfirst, hrest⟩ := List.forall_mem_cons.mp hreadings
      have hnext : Alike view data p (q.serve reading).2 := by
        cases reading with
        | materialize => exact ⟨h.appearance_eq, h.left, .serve .materialize trivial h.right⟩
        | tags => exact ⟨h.appearance_eq, h.left, .serve .tags trivial h.right⟩
        | _ => cases hfirst
      exact ih hnext hrest

/-- A run with early readings is answered like the run without them. -/
theorem answers_eq {calls : List Call}
    (hcalls : ∀ call ∈ calls, call.request.Admissible ∧ call.request.Keeps view data) :
    (q.answers calls).map (Reply.view view) =
      (p.serveAll (calls.map (·.request))).1.map (Reply.view view) := by
  induction calls generalizing p q with
  | nil => rfl
  | cons call rest ih =>
      obtain ⟨⟨hadmissible, hkeeps⟩, hrest⟩ := List.forall_mem_cons.mp hcalls
      -- the list is read in one of the runs, then both are asked
      obtain ⟨hreply, hnext⟩ := (h.readings call.isReading).serve hview hadmissible hkeeps
      simp only [answers, serveAll, List.map_cons, hreply, ih hnext hrest]

end Alike

/-! ## Runs from a byte string -/

/-- What is read from an accepted byte string is answered alike whether or not the tag list is
read early: all but the preferred color modules of tags is the same, and these too as long as
the field of the color module is not set. This needs that no ID is stored, or that no tag lies
over the ID of the header. -/
theorem answers_early {flags : LoadFlags} (hread : ofBytesWith flags data = .ok p)
    {calls : List Call} (hcalls : ∀ call ∈ calls, call.request.Admissible)
    (hid : (∀ call ∈ calls, call.request ≠ .repairId) ∨ ApartFromId data) :
    (p.answers calls).map (Reply.view Tag.unmarked) =
        (p.serveAll (calls.map (·.request))).1.map (Reply.view Tag.unmarked) ∧
      ((∀ call ∈ calls, ∀ value, call.request ≠ .setField .cmm value) →
        p.answers calls = (p.serveAll (calls.map (·.request))).1) := by
  have hsame (view : Tag → Tag) : Alike view data p p := ⟨rfl, .ofBytes hread, .ofBytes hread⟩
  -- a request keeps the tags to a view that hides the color module if it sets that
  have hkeeps (view : Tag → Tag) (call : Call) (hcall : call ∈ calls)
      (hcmm : ∀ value, call.request = .setField .cmm value → view = Tag.unmarked) :
      call.request.Keeps view data := by
    cases hrequest : call.request with
    | setField f value =>
        rintro rfl
        exact hcmm value hrequest
    | repairId => exact hid.resolve_left fun hnone => hnone call hcall hrequest
    | _ => trivial
  constructor
  · apply (hsame Tag.unmarked).answers_eq Tag.isView_unmarked
    intro call hcall
    exact ⟨hcalls call hcall, hkeeps _ call hcall fun _ _ => rfl⟩
  · intro hcmm
    have hall := (hsame fun tag => tag).answers_eq Tag.isView_plain fun call hcall =>
      ⟨hcalls call hcall, hkeeps _ call hcall fun value heq => absurd heq (hcmm call hcall value)⟩
    simpa only [Reply.view_plain, List.map_id_fun', id_eq] using hall

/-- The preferred color module is set after the tag list was read, and a tag is asked for. -/
def recolored : List Call :=
  [⟨[.tags], .setField .cmm 0x6C636D73, by decide⟩, ⟨[], .tagAt 0, by decide⟩]

theorem answers_early_recolored :
    ofBytesWith {} repeated = .ok (fresh repeated accepted_repeated.headerSize_le) ∧
      (∀ call ∈ recolored, call.request.Admissible) ∧ ApartFromId repeated ∧
      ((fresh repeated accepted_repeated.headerSize_le).answers recolored).map
          (Reply.view Tag.unmarked) =
        ((fresh repeated accepted_repeated.headerSize_le).serveAll
          [.setField .cmm 0x6C636D73, .tagAt 0]).1.map (Reply.view Tag.unmarked) := by
  have hread : ofBytesWith {} repeated = .ok (fresh repeated accepted_repeated.headerSize_le) :=
    ofBytes_of_accepted accepted_repeated
  have hcalls : ∀ call ∈ recolored, call.request.Admissible := by
    simp [recolored, Request.Admissible]
  have hapart : ApartFromId repeated := by decide +kernel
  exact ⟨hread, hcalls, hapart, (answers_early hread hcalls (.inr hapart)).1⟩

/-- The ID is stored after the tag list was read, and a tag is asked for. -/
def restamped : List Call :=
  [⟨[.tags], .repairId, by decide⟩, ⟨[], .tagAt 0, by decide⟩]

/-- A container whose only tag lies over the ID of the header. -/
def idAsTag : Bytes :=
  Bytes.ofSize 144 ++ List.replicate 32 0 ++ Bytes.ofWord32 Signature.magic
    ++ List.replicate 88 0 ++ Bytes.ofSize 1
    ++ Bytes.ofWord32 0x74657374 ++ Bytes.ofSize 84 ++ Bytes.ofSize 16

theorem accepted_idAsTag : Accepted idAsTag :=
  ⟨by decide +kernel, by decide +kernel, by decide +kernel, by decide +kernel⟩

/-- A tag list that was read early keeps the color module and the ID of the header as they were
then; one that is read late has those that were set before. -/
theorem readings_seen :
    (∃ p early late, ofBytes repeated = .ok p ∧
      p.answers recolored = [.done, .tag (some early)] ∧
      (p.serveAll (recolored.map (·.request))).1 = [.done, .tag (some late)] ∧
      early.modules.profile = 0 ∧ late.modules.profile = 0x6C636D73) ∧
    (∃ p id early late, ofBytes idAsTag = .ok p ∧
      p.answers restamped = [.id id, .tag (some early)] ∧
      (p.serveAll (restamped.map (·.request))).1 = [.id id, .tag (some late)] ∧
      early.block = ProfileId.zero.bytes ∧ late.block = id.bytes ∧ id ≠ .zero) := by
  constructor
  · refine ⟨fresh repeated accepted_repeated.headerSize_le,
      Tag.ofContainer repeated Signature.copyright 168 12 0,
      Tag.ofContainer repeated Signature.copyright 168 12 0x6C636D73,
      ofBytes_of_accepted accepted_repeated, ?_, ?_, ?_, ?_⟩
    · decide +kernel
    · decide +kernel
    · decide +kernel
    · decide +kernel
  · refine ⟨fresh idAsTag accepted_idAsTag.headerSize_le, ProfileId.ofContent idAsTag,
      Tag.ofContainer idAsTag 0x74657374 84 16 0,
      Tag.ofContainer ((ProfileId.ofContent idAsTag).stamp idAsTag) 0x74657374 84 16 0,
      ofBytes_of_accepted accepted_idAsTag, ?_, ?_, ?_, ?_, ?_⟩
    · decide +kernel
    · decide +kernel
    · decide +kernel
    · decide +kernel
    · decide +kernel

end Profile

end IccProfile
