import IccProfile.Profile.Request
import IccProfile.Proofs.Checked.Additions
import IccProfile.Proofs.Checked.Writing

/-!
# Sessions with checks

A session reads a byte string as a profile and serves requests, one after the other. With
checks it answers what it answers without them, unless memory ends: `serve_gives` is one
request, `serveAll_gives` the induction along the requests, and `stops_only_for_memory` the
whole session on any bytes whatever.

Requests come from a program and not from the bytes, so their texts are bounded
(`Request.Modest`): those that are stored have fewer than `2 ^ 31` bytes, and a position is
not the last word, which could not be moved behind the pseudo tag.
-/

set_option autoImplicit false

namespace IccProfile

/-- Whether the texts of a request are of a size that a program may store, and its position one
that has a next. -/
def Request.Modest : Request → Prop
  | .addText _ text => text.utf8ByteSize < 2 ^ 31
  | .addDevice properties _ => ∀ e ∈ properties.entries, e.2.utf8ByteSize < 2 ^ 31
  | .addTag _ position => ∀ n ∈ position, n < 2 ^ 64 - 1
  | _ => True

namespace Checked

/-- Answers a question about the tags of a profile, whose list is then there. What is found in a
list needs no operation that can stop. -/
def ask (p : Profile) (answer : Profile → Reply) : Checked (Reply × Profile) := do
  let p ← materialize p
  let _ ← visible p.allTags
  return (answer p, p)

/-- The answer to a request, and the profile afterwards. -/
def serve (p : Profile) : Request → Checked (Reply × Profile)
  | .setField f value => return (.done, ← setField p f value)
  | .addText signature text => return p.answerChange (← addText p signature text)
  | .addTag tag position => return p.answerChange (← addTag p tag position)
  | .removeTag signature => do
    let (tag, q) ← removeTag p signature
    return (.tag tag, q)
  | .addDevice properties options => return p.answerChange (← addDevice p properties options)
  | .repairId => do
    let (id, q) ← repairId p
    return (.id id, q)
  | .setFileName name => return (.done, { p with fileName := name })
  | .setMetaFilter device => return (.done, { p with metaFilter := device })
  | .field f => return (.word (← field p f), p)
  | .header =>
    match p.header with
    | some header => return (.header (← header? header.val).toOption, p)
    | none => return (.header none, p)
  | .headerBytes => return (.bytes (p.header.map (·.val)), p)
  | .rawBytes => return (.bytes p.raw, p)
  | .fileName => return (.fileName p.fileName, p)
  | .metaFilter => return (.device p.metaFilter, p)
  | .materialize => return (.done, ← materialize p)
  | .tags => ask p fun q => .tags q.tags
  | .headerTag => ask p fun q => .tag q.headerTag?
  | .tagAt position => ask p fun q => .tag q.tags[position]?
  | .tagOf signature => ask p fun q => .tag (q.tag? signature)
  | .textFor signature language country =>
    ask p fun q => .text (q.textFor signature language country)
  | .texts signature language? country? =>
    ask p fun q => .texts ((q.tag? signature).map fun tag => tag.texts language? country?)
  | .deviceProperties => ask p fun q => .properties q.deviceProperties
  | .toBytes => do
    let (data, q) ← toBytes p
    return (.bytes (some data), q)
  | .id true => do
    let (id, q) ← computedId p
    return (.id id, q)
  | .id false => do
    let (id, q) ← identity p
    return (.id id, q)
  | .checkId => do
    let (check, q) ← checkId p
    return (.check check, q)

/-- The answers to requests made one after the other, and the profile afterwards. -/
def serveAll (p : Profile) : List Request → Checked (List Reply × Profile)
  | [] => return ([], p)
  | request :: rest => do
    let (reply, q) ← serve p request
    let (replies, r) ← serveAll q rest
    return (reply :: replies, r)

/-- The answers to requests about the profile of a byte string, when it is one. -/
def session (flags : LoadFlags) (data : Bytes) (requests : List Request) :
    Checked (Except Error (List Reply × Profile)) := do
  match ← ofBytes flags data with
  | .error fault => return .error fault
  | .ok p => return .ok (← serveAll p requests)

theorem ask_gives (p : Profile) (answer : Profile → Reply) :
    Gives (ask p answer) (answer p.materialized, p.materialized) := by
  apply (materialize_gives p).bind
  rw [visible_eq, ok_bind]
  exact gives_ok _

/-- One case for each request. -/
theorem serve_gives (p : Profile) {request : Request} (h : request.Modest) :
    Gives (serve p request) (p.serve request) := by
  cases request with
  | setField f value =>
      rw [serve, setField_eq, ok_bind]
      exact gives_ok _
  | addText signature text => exact (addText_gives p signature h).bind (gives_ok _)
  | addTag tag position => exact (addTag_gives p tag position h).bind (gives_ok _)
  | removeTag signature => exact (removeTag_gives p signature).bind (gives_ok _)
  | addDevice properties options => exact (addDevice_gives p options h).bind (gives_ok _)
  | repairId => exact (repairId_gives p).bind (gives_ok _)
  | field f =>
      rw [serve, field_eq, ok_bind]
      exact gives_ok _
  | header =>
      rw [serve, Profile.serve, Profile.headerParts?]
      cases p.header with
      | none => exact gives_ok _
      | some header =>
          have hlength : header.val.length < 2 ^ 63 := by
            rw [header.property]
            decide
          simp only [header?_eq hlength, ok_bind]
          exact gives_ok _
  | materialize => exact (materialize_gives p).bind (gives_ok _)
  | tags => exact ask_gives p _
  | headerTag => exact ask_gives p _
  | tagAt position => exact ask_gives p _
  | tagOf signature => exact ask_gives p _
  | textFor signature language country => exact ask_gives p _
  | texts signature language? country? => exact ask_gives p _
  | deviceProperties => exact ask_gives p _
  | toBytes => exact (toBytes_gives p).bind (gives_ok _)
  | id force =>
      cases force with
      | true => exact (computedId_gives p).bind (gives_ok _)
      | false => exact (identity_gives p).bind (gives_ok _)
  | checkId => exact (checkId_gives p).bind (gives_ok _)
  | _ => exact gives_ok _

/-- Each request is served in the profile that the one before it left. -/
theorem serveAll_gives (p : Profile) {requests : List Request} (h : ∀ r ∈ requests, r.Modest) :
    Gives (serveAll p requests) (p.serveAll requests) := by
  induction requests generalizing p with
  | nil => exact gives_ok _
  | cons request rest ih =>
      obtain ⟨hfirst, hrest⟩ := List.forall_mem_cons.mp h
      apply (serve_gives p hfirst).bind
      exact (ih (p.serve request).2 hrest).bind (gives_ok _)

/-- Whatever bytes are read as a profile or decoded as a tag block, and whatever is asked of the
profile, no run leaves a word, a range or the length of a copy; only memory can end. -/
theorem stops_only_for_memory (flags : LoadFlags) (data block : Bytes) (requests : List Request)
    (h : ∀ r ∈ requests, r.Modest) :
    Gives (session flags data requests)
        ((Profile.ofBytesWith flags data).map fun p => p.serveAll requests) ∧
      (∀ p : Profile, hasEmbeddedId p = .ok p.hasEmbeddedId) ∧
      Gives (hold block >>= decodeData) (TagData.decode block) := by
  refine ⟨?_, hasEmbeddedId_eq, ?_⟩
  · apply (ofBytes_gives flags data).bind
    cases Profile.ofBytesWith flags data with
    | error fault => exact gives_ok _
    | ok p => exact (serveAll_gives p h).bind (gives_ok _)
  · apply gives_hold
    intro hlength
    rw [decodeData_eq hlength]
    exact gives_ok _

/-- A block of localized text with as many records of as great a size as its fields can say, whose
one record points as far. -/
def boundlessText : Bytes :=
  blockHead Signature.typeLocalized ++ List.replicate 8 0xFF ++ Text.code2 "en" ++ Text.code2 "US"
    ++ List.replicate 8 0xFF

/-- A profile with that text and with a tag that lies as far behind its end. -/
def boundlessProfile : Bytes :=
  ((HeaderBlock.zero.write .magic Signature.magic).write .version Version.v43.word).val
    ++ Bytes.ofSize 2
    ++ Bytes.ofWord32 Signature.description ++ Bytes.ofSize 156 ++ Bytes.ofSize 28
    ++ Bytes.ofWord32 Signature.copyright ++ List.replicate 8 0xFF
    ++ boundlessText

/-- Questions and changes that are asked of it. -/
def boundlessRequests : List Request :=
  [.textFor Signature.description "en" "US", .addText Signature.deviceModel "View",
    .addDevice ⟨[("EDID_mnft", "ACM")]⟩ { requiredPrefix := some "EDID_", setAttributes := true },
    .repairId, .toBytes]

theorem boundlessRequests_modest : ∀ r ∈ boundlessRequests, r.Modest := by
  simp only [boundlessRequests, List.mem_cons, List.not_mem_nil, or_false, forall_eq_or_imp,
    forall_eq, Request.Modest, and_true, true_and]
  decide

theorem stops_only_for_memory_boundless :
    (∀ r ∈ boundlessRequests, r.Modest) ∧
      Gives (session {} boundlessProfile boundlessRequests)
        ((Profile.ofBytesWith {} boundlessProfile).map fun p => p.serveAll boundlessRequests) ∧
      ((session {} boundlessProfile boundlessRequests).toOption.bind Except.toOption).isSome ∧
      Gives (hold boundlessText >>= decodeData) (TagData.decode boundlessText) := by
  obtain ⟨hsession, -, hblock⟩ := stops_only_for_memory {} boundlessProfile boundlessText
    boundlessRequests boundlessRequests_modest
  exact ⟨boundlessRequests_modest, hsession, by decide +kernel, hblock⟩

end Checked

end IccProfile
