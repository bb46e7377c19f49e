import IccProfile.Proofs.Profile.DeviceProperties

/-!
# What is answered for stored device properties

As its device properties a profile answers those that it carries, with the fallbacks for missing
keys behind them (`entries_deviceProperties`). The fallback for the serial number is found in what
is carried, but no key that is added counts for it. So a profile that carries its own answer has
the fallbacks that it had before (`fallbacks_supplemented`), and none of their keys is missing any
more (`supplement_supplemented`): storing the answer once more leaves it as it is
(`Consistent.answersAlike`).

`deviceProperties_embedded` says what becomes of properties that are stored: in the profile, in
its written form, and when the answers are stored again.
-/

set_option autoImplicit false

namespace IccProfile

namespace Properties

variable {p q : Properties} {key name value : String} {fallbacks : List (String × Option String)}

/-- The fallbacks that have a value and whose key is missing. -/
def supplement (p : Properties) (fallbacks : List (String × Option String)) :
    List (String × String) :=
  fallbacks.filterMap fun (key, value?) =>
    if key ∈ p.keys then none else value?.map fun value => (key, value)

theorem mem_supplement :
    (key, value) ∈ p.supplement fallbacks ↔ (key, some value) ∈ fallbacks ∧ key ∉ p.keys := by
  rw [supplement, List.mem_filterMap]
  constructor
  · rintro ⟨⟨name, value?⟩, hf, hsome⟩
    obtain ⟨hmissing, hvalue⟩ := Option.ite_none_left_eq_some.mp hsome
    obtain ⟨_, rfl, heq⟩ := Option.map_eq_some_iff.mp hvalue
    obtain ⟨rfl, rfl⟩ := Prod.mk.inj heq
    exact ⟨hf, hmissing⟩
  · rintro ⟨hf, hmissing⟩
    exact ⟨(key, some value), hf, if_neg hmissing⟩

theorem contains_iff : p.contains key = true ↔ key ∈ p.keys := by
  simp [contains, get?, keys]

/-- A missing key is added with its fallback. -/
theorem entries_pushMissing (p : Properties) (key : String) (value? : Option String) :
    (p.pushMissing key value?).entries = p.entries ++ p.supplement [(key, value?)] := by
  by_cases hkey : key ∈ p.keys
  · have hsame : p.pushMissing key value? = p := if_pos (contains_iff.mpr hkey)
    simp [hsame, supplement, hkey]
  · cases value? with
    | none => simp [pushMissing_none, supplement]
    | some value =>
        have hadded : p.pushMissing key (some value) = p.push key value :=
          if_neg (contains_iff.not.mpr hkey)
        simp [hadded, push, supplement, hkey]

/-- Other keys are missing as before. -/
theorem mem_keys_pushMissing (h : key ≠ name) (value? : Option String) :
    name ∈ (p.pushMissing key value?).keys ↔ name ∈ p.keys := by
  rw [← contains_iff, ← contains_iff, contains, contains, get?_pushMissing_of_ne h]

/-- Missing keys are added one after the other. -/
theorem entries_foldl_pushMissing (hkeys : (fallbacks.map (·.1)).Nodup) :
    (fallbacks.foldl (fun q f => q.pushMissing f.1 f.2) p).entries =
      p.entries ++ p.supplement fallbacks := by
  induction fallbacks generalizing p with
  | nil => simp [supplement]
  | cons first rest ih =>
      obtain ⟨hnew, hrest⟩ := List.nodup_cons.mp hkeys
      -- the first key is none of the other ones
      have hsame : (p.pushMissing first.1 first.2).supplement rest = p.supplement rest := by
        refine List.filterMap_congr fun f hf => ?_
        have hne : first.1 ≠ f.1 := fun heq => hnew (List.mem_map.mpr ⟨f, hf, heq.symm⟩)
        simp only [mem_keys_pushMissing hne]
      have hsplit : p.supplement (first :: rest) = p.supplement [first] ++ p.supplement rest :=
        List.filterMap_append (l := [first])
      rw [List.foldl_cons, ih hrest, hsame, entries_pushMissing, hsplit, List.append_assoc]

/-- With the fallbacks added none of their keys is missing. -/
theorem supplement_supplemented (h : q.entries = p.entries ++ p.supplement fallbacks) :
    q.supplement fallbacks = [] := by
  rw [List.eq_nil_iff_forall_not_mem]
  rintro ⟨key, value⟩ hmem
  obtain ⟨hf, hmissing⟩ := mem_supplement.mp hmem
  have hkeys : q.keys = p.keys ++ (p.supplement fallbacks).map (·.1) := by
    rw [keys, h, List.map_append, keys]
  rw [hkeys, List.mem_append, not_or] at hmissing
  exact hmissing.2 (List.mem_map_of_mem (mem_supplement.mpr ⟨hf, hmissing.1⟩))

end Properties

namespace Profile

variable {source : Option Bytes} {p q : Profile} {properties answer : Properties}

/-- What a profile has for keys that its device properties lack: the value of the first key that
ends in `_serial`, and the texts that tell model and maker. -/
def fallbacks (p : Profile) (properties : Properties) : List (String × Option String) :=
  [("serial", (properties.entries.find? fun e => "_serial".toList <:+ e.1.toList).map (·.2)),
    ("model", p.text Signature.deviceModel), ("manufacturer", p.text Signature.deviceMaker)]

/-- A profile answers with the properties that it carries, the fallbacks for missing keys behind
them. -/
theorem entries_deviceProperties (h : p.storedProperties = properties) :
    p.deviceProperties.entries =
      properties.entries ++ properties.supplement (p.fallbacks properties) := by
  have hserial : properties.serialLike? =
      (properties.entries.find? fun e => "_serial".toList <:+ e.1.toList).map (·.2) := by
    rw [Properties.serialLike?]
    congr 2
    funext e
    rw [Bool.eq_iff_iff, List.isPrefixOf_iff_prefix, List.reverse_prefix, decide_eq_true_eq]
  have hfold : p.deviceProperties =
      (p.fallbacks properties).foldl (fun q f => q.pushMissing f.1 f.2) properties := by
    rw [deviceProperties, h, fallbacks, ← hserial]
    rfl
  have hkeys : ((p.fallbacks properties).map (·.1)).Nodup :=
    (by decide : ["serial", "model", "manufacturer"].Nodup)
  rw [hfold, Properties.entries_foldl_pushMissing hkeys]

/-- The tags that hold no device properties. -/
def otherTags (p : Profile) : List Tag :=
  p.tags.filter (·.signature ≠ Signature.deviceProperties)

/-- The fallbacks stay the same when they are added. -/
theorem fallbacks_supplemented
    (h : answer.entries = properties.entries ++ properties.supplement (p.fallbacks properties))
    (hmodel : q.text Signature.deviceModel = p.text Signature.deviceModel)
    (hmaker : q.text Signature.deviceMaker = p.text Signature.deviceMaker) :
    q.fallbacks answer = p.fallbacks properties := by
  -- no key of a fallback ends in `_serial`
  have hnone : ((properties.supplement (p.fallbacks properties)).find? fun e =>
      "_serial".toList <:+ e.1.toList) = none := by
    have hkeys : ∀ key ∈ ["serial", "model", "manufacturer"],
        ¬ "_serial".toList <:+ key.toList := by
      decide
    rw [List.find?_eq_none]
    intro e he hend
    have hkey : e.1 ∈ (p.fallbacks properties).map (·.1) :=
      List.mem_map_of_mem (Properties.mem_supplement.mp he).1
    exact hkeys e.1 hkey (of_decide_eq_true hend)
  rw [fallbacks, h, List.find?_append, hnone, Option.or_none, hmodel, hmaker, fallbacks]

/-- Stored properties leave the texts of other tags. -/
theorem Consistent.text_withDevice (h : Consistent source p) (properties : Properties)
    {signature : Signature} (hne : signature ≠ Signature.deviceProperties) :
    (p.withDevice properties).text signature = p.text signature :=
  h.text_withTag_of_ne (rfl : (deviceTag properties).isHeader = false) hne

theorem Consistent.otherTags_withDevice (h : Consistent source p) (properties : Properties) :
    (p.withDevice properties).otherTags = p.otherTags :=
  h.otherTags_withTag (rfl : (deviceTag properties).isHeader = false)

/-- Storing the answer of a profile once more changes neither the answer nor the other tags. -/
def AnswersAlike (p : Profile) : Prop :=
  ∃ q, p.addDevice p.deviceProperties {} = .ok q ∧ q.deviceProperties = p.deviceProperties ∧
    q.otherTags = p.otherTags

theorem Consistent.answersAlike (h : Consistent source p) : p.AnswersAlike := by
  have hanswer : p.deviceProperties.entries = p.storedProperties.entries ++
      p.storedProperties.supplement (p.fallbacks p.storedProperties) :=
    entries_deviceProperties rfl
  have hfallbacks : (p.withDevice p.deviceProperties).fallbacks p.deviceProperties =
      p.fallbacks p.storedProperties :=
    fallbacks_supplemented hanswer (h.text_withDevice _ (by decide))
      (h.text_withDevice _ (by decide))
  -- the answer is carried now, and lacks nothing that there is a fallback for
  have hagain := entries_deviceProperties (h.storedProperties_withDevice p.deviceProperties)
  rw [hfallbacks, Properties.supplement_supplemented hanswer, List.append_nil] at hagain
  exact ⟨p.withDevice p.deviceProperties, addDevice_eq p p.deviceProperties,
    congrArg Properties.mk hagain, h.otherTags_withDevice _⟩

/-- Device properties that are stored are answered in their order, repeated keys included, with
the fallbacks for missing keys behind them, and all other tags stay as they are. The written form
answers them alike with fallbacks of its own, when no name and no value holds a NUL. Storing what
either of the two answers once more leaves its answer and its other tags as they are. -/
theorem deviceProperties_embedded (hp : Reachable source p) (properties : Properties) :
    ∃ q, p.addDevice properties {} = .ok q ∧
      q.deviceProperties.entries =
        properties.entries ++ properties.supplement (p.fallbacks properties) ∧
      q.otherTags = p.otherTags ∧ q.AnswersAlike ∧
      (Dictionary.NulFree ⟨properties.entries⟩ → q.toBytes.length < UInt32.size →
        ∃ r, ofBytes q.toBytes = .ok r ∧
          r.deviceProperties.entries =
            properties.entries ++ properties.supplement (r.fallbacks properties) ∧
          r.AnswersAlike) := by
  have hconsistent := hp.consistent
  have hafter : Consistent source (p.withDevice properties) :=
    hconsistent.insertTag (.ofData (ofData?_deviceTag properties)) rfl none
  refine ⟨p.withDevice properties, addDevice_eq p properties, ?_,
    hconsistent.otherTags_withDevice properties, hafter.answersAlike, ?_⟩
  · have hfallbacks : (p.withDevice properties).fallbacks properties = p.fallbacks properties := by
      rw [fallbacks, hconsistent.text_withDevice _ (by decide),
        hconsistent.text_withDevice _ (by decide), fallbacks]
    rw [entries_deviceProperties (hconsistent.storedProperties_withDevice properties), hfallbacks]
  -- what is written carries the properties too
  · intro hnul hlength
    have haccepted := hafter.accepted_toBytes hlength
    exact ⟨_, ofBytes_of_accepted haccepted,
      entries_deviceProperties
        (hconsistent.storedProperties_reloaded hnul hlength haccepted.headerSize_le),
      (consistent_fresh haccepted).answersAlike⟩

/-- Properties with a key twice, two keys that end alike and no serial number. -/
def networkPrinter : Properties :=
  ⟨[("host", "a"), ("usb_serial", "7"), ("host", "b"), ("net_serial", "8")]⟩

/-- A profile that tells a model, made for another device. -/
def modelNamed : Profile :=
  ((empty.serve (.addText Signature.deviceModel "N1")).2.serve
    (.addDevice ⟨[("serial", "6")]⟩ {})).2

theorem deviceProperties_embedded_networkPrinter :
    Dictionary.NulFree ⟨networkPrinter.entries⟩ ∧
      ∃ q r, modelNamed.addDevice networkPrinter {} = .ok q ∧
        q.toBytes.length < UInt32.size ∧
        q.deviceProperties.entries =
          networkPrinter.entries ++ [("serial", "7"), ("model", "N1")] ∧
        q.otherTags = modelNamed.otherTags ∧ ofBytes q.toBytes = .ok r ∧
        networkPrinter.entries <+: r.deviceProperties.entries ∧ r.AnswersAlike := by
  have hnul : Dictionary.NulFree ⟨networkPrinter.entries⟩ := by decide +kernel
  have hreachable : Reachable none modelNamed := .serve _ trivial (.serve _ trivial .empty)
  have hsupplement : networkPrinter.supplement (modelNamed.fallbacks networkPrinter) =
      [("serial", "7"), ("model", "N1")] := by
    decide +kernel
  obtain ⟨q, hq, hentries, htags, -, hreload⟩ :=
    deviceProperties_embedded hreachable networkPrinter
  have hlength : q.toBytes.length < UInt32.size := by
    obtain rfl := Except.ok.inj ((addDevice_eq modelNamed networkPrinter).symm.trans hq)
    rw [length_toBytes_of_rewritten rfl]
    decide +kernel
  obtain ⟨r, hr, hread, halike⟩ := hreload hnul hlength
  rw [hsupplement] at hentries
  exact ⟨hnul, q, r, hq, hlength, hentries, htags, hr, ⟨_, hread.symm⟩, halike⟩

end Profile

end IccProfile
