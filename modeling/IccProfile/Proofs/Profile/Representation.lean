import IccProfile.Proofs.Profile.Consistent

/-!
# What a profile is between requests

`representation` collects what holds of every reachable profile: unchanged raw bytes
are the written form and carry the header, and they are the source up to the ID; the
pseudo tag is that of the header; a profile without raw bytes is empty until it is
changed. Questions and changes that are refused do not alter what a profile is
(`unaffected_serve`): its written form, its identity, and whether it was changed.
-/

set_option autoImplicit false

namespace IccProfile

/-- The answer to a change that was not made, or to a question for a tag that is not there. -/
def Reply.isRefusal : Reply → Bool
  | .failed _ | .tag none => true
  | _ => false

namespace Profile

/-- A profile is written like another, is changed or not like it, and has its identity. -/
structure Unaffected (p q : Profile) : Prop where
  toBytes_eq : q.toBytes = p.toBytes
  modified_eq : q.modified = p.modified
  id_eq : q.id = p.id
  computedId_eq : q.computedId = p.computedId

variable {source : Option Bytes} {p : Profile}

/-! ## Questions and refusals -/

theorem unaffected_refl (p : Profile) : Unaffected p p := ⟨rfl, rfl, rfl, rfl⟩

/-- Reading the tag list leaves what the profile is. -/
theorem unaffected_materialized (p : Profile) : Unaffected p p.materialized :=
  ⟨rfl, rfl, rfl, rfl⟩

theorem unaffected_afterWriting (p : Profile) : Unaffected p p.afterWriting := by
  unfold afterWriting
  split
  · exact unaffected_refl p
  · exact unaffected_materialized p

/-- Remembering the identity that was found does not change it. -/
theorem unaffected_afterId (p : Profile) : Unaffected p p.afterId := by
  cases hknown : p.knownId with
  | some id =>
      simp only [afterId, hknown]
      exact unaffected_refl p
  | none =>
      have hid : p.freshId = p.id := by rw [id, hknown, Option.getD_none]
      cases hembedded : p.hasEmbeddedId && !p.modified with
      | true =>
          simp only [afterId, hknown, hembedded, if_true]
          exact ⟨rfl, rfl, hid, rfl⟩
      | false =>
          obtain ⟨hbytes, hmodified, -, hcomputed⟩ := unaffected_afterWriting p
          simp only [afterId, hknown, hembedded]
          exact ⟨hbytes, hmodified, hid, hcomputed⟩

theorem unaffected_afterCheck (p : Profile) : Unaffected p p.afterCheck := by
  unfold afterCheck
  split
  · exact unaffected_afterWriting p
  · exact unaffected_refl p

/-- A change that was refused left the profile as it was. -/
theorem unaffected_answerChange {change : Except Error Profile}
    (h : (p.answerChange change).1.isRefusal = true) :
    Unaffected p (p.answerChange change).2 := by
  cases change with
  | error error => exact unaffected_refl p
  | ok q => cases h

theorem unaffected_removeTag {signature : Signature}
    (h : (Reply.tag (p.removeTag signature).1).isRefusal = true) :
    Unaffected p (p.removeTag signature).2 := by
  rcases removeTag_eq p signature with ⟨-, hsome, -⟩ | ⟨-, heq | heq⟩
  · obtain ⟨tag, htag⟩ := Option.isSome_iff_exists.mp hsome
    rw [htag] at h
    cases h
  · rw [heq]
    exact unaffected_refl p
  · rw [heq]
    exact unaffected_materialized p

/-- Questions and changes that are refused leave what a profile is. -/
theorem unaffected_serve (p : Profile) (request : Request)
    (h : request.isQuestion = true ∨ (p.serve request).1.isRefusal = true) :
    Unaffected p (p.serve request).2 := by
  cases request with
  | setField field value => rcases h with h | h <;> cases h
  | addText signature text =>
      exact unaffected_answerChange (h.resolve_left (nomatch ·))
  | addTag tag position => exact unaffected_answerChange (h.resolve_left (nomatch ·))
  | removeTag signature => exact unaffected_removeTag (h.resolve_left (nomatch ·))
  | addDevice properties options =>
      exact unaffected_answerChange (h.resolve_left (nomatch ·))
  | repairId => rcases h with h | h <;> cases h
  | setFileName name => rcases h with h | h <;> cases h
  | setMetaFilter device => rcases h with h | h <;> cases h
  | field field => exact unaffected_refl p
  | header => exact unaffected_refl p
  | headerBytes => exact unaffected_refl p
  | rawBytes => exact unaffected_refl p
  | fileName => exact unaffected_refl p
  | metaFilter => exact unaffected_refl p
  | materialize => exact unaffected_materialized p
  | tags => exact unaffected_materialized p
  | headerTag => exact unaffected_materialized p
  | tagAt position => exact unaffected_materialized p
  | tagOf signature => exact unaffected_materialized p
  | textFor signature language country => exact unaffected_materialized p
  | texts signature language? country? => exact unaffected_materialized p
  | deviceProperties => exact unaffected_materialized p
  | toBytes => exact unaffected_afterWriting p
  | id force =>
      cases force with
      | false => exact unaffected_afterId p
      | true => exact unaffected_afterWriting p
  | checkId => exact unaffected_afterCheck p

/-! ## The three places of the header -/

/-- The pseudo tag is that of the header. -/
theorem Consistent.headerTag?_eq (h : Consistent source p) :
    p.headerTag? = p.header.map Tag.ofHeader := h.shows.head?_filter

/-- The raw bytes, the header block, the pseudo tag and the remembered identity of a reachable
profile go together, and neither a question nor a refused change alters what the profile is. -/
theorem representation (h : Reachable source p) :
    (∀ raw, p.raw = some raw → p.modified = false →
      p.header.map (·.val) = some (raw.take headerSize) ∧ p.toBytes = raw ∧
        ∃ data, source = some data ∧ raw.length = data.length ∧
          ∀ i, i < idOffset ∨ idOffset + 16 ≤ i → raw[i]? = data[i]?) ∧
    (p.headerTag?.isSome = p.header.isSome ∧
      ∀ tag, p.headerTag? = some tag →
        p.header.map (·.val) = some tag.block ∧ tag.modules.profile = p.field .cmm) ∧
    (p.raw = none → p.modified = false → p.header = none ∧ p.tags = []) ∧
    (∀ request : Request, request.isQuestion = true ∨ (p.serve request).1.isRefusal = true →
      Unaffected p (p.serve request).2) := by
  have hp := h.consistent
  refine ⟨?_, ⟨?_, ?_⟩, ?_, unaffected_serve p⟩
  -- the raw bytes, as long as nothing was changed
  · intro raw hraw hmodified
    obtain ⟨data, hdata, hstamp⟩ := hp.source_of_raw hraw
    refine ⟨?_, ?_, data, hdata, (ProfileId.length_eq_of_stamp_eq hstamp).symm, ?_⟩
    · rw [hp.header_eq hmodified, hraw, Option.map_some]
    · exact toBytes_of_unchanged (unchangedBytes?_eq_some.mpr ⟨hmodified, hraw⟩)
    · intro i hi
      exact (ProfileId.getElem?_eq_of_stamp_eq hstamp hi).symm
  -- the pseudo tag
  · rw [hp.headerTag?_eq, Option.isSome_map]
  · intro tag htag
    rw [hp.headerTag?_eq] at htag
    obtain ⟨header, hheader, rfl⟩ := Option.map_eq_some_iff.mp htag
    refine ⟨?_, ?_⟩
    · rw [hheader]
      rfl
    · rw [field, hheader]
      rfl
  -- no raw bytes, and nothing was changed
  · intro hraw hmodified
    exact ⟨hp.header_of_none hmodified hraw, hp.tags_eq hmodified hraw⟩

/-- The shortest container. -/
def shortest : Bytes :=
  Bytes.ofSize minProfileSize ++ List.replicate 32 0 ++ Bytes.ofWord32 Signature.magic
    ++ List.replicate 92 0

theorem accepted_shortest : Accepted shortest :=
  ⟨by decide +kernel, by decide +kernel, by decide +kernel, by decide +kernel⟩

/-- The profile of the shortest container with its ID stored. -/
def repaired : Profile := ((fresh shortest accepted_shortest.headerSize_le).serve .repairId).2

theorem representation_repaired :
    Reachable (some shortest) repaired ∧ repaired.modified = false ∧
      (∀ i, i < idOffset ∨ idOffset + 16 ≤ i → repaired.toBytes[i]? = shortest[i]?) ∧
      repaired.headerTag?.isSome = true ∧
      Unaffected repaired (repaired.serve (.id false)).2 := by
  have hread : ofBytesWith {} shortest = .ok (fresh shortest accepted_shortest.headerSize_le) :=
    ofBytes_of_accepted accepted_shortest
  have hreachable : Reachable (some shortest) repaired := .serve _ trivial (.ofBytes hread)
  have hmodified : repaired.modified = false := modified_repairId _
  obtain ⟨hraw, ⟨hpseudo, -⟩, -, hfrom⟩ := representation hreachable
  obtain ⟨-, hbytes, data, hdata, -, hsame⟩ := hraw _ (raw_repairId _) hmodified
  obtain rfl := Option.some.inj hdata
  refine ⟨hreachable, hmodified, ?_, ?_, hfrom _ (.inl rfl)⟩
  · rw [hbytes]
    exact hsame
  · rw [hpseudo, repaired]
    rfl

end Profile

end IccProfile
