import IccProfile.Proofs.Profile.AddedTag
import IccProfile.Proofs.Profile.Reload

/-!
# Texts that were stored

A text is stored in the form that the version of the profile asks for: as localized text from
version 4 on, before it in single bytes. The tag in memory keeps the text as it was given; what
is read from the written form is what storage keeps (`textFor_stored_textData`). Localized text
keeps every text without NUL. Single bytes keep ASCII, and have a question mark for each byte of
any other character.

The version is written as it is, unless it is zero (`field_version_fresh`).
-/

set_option autoImplicit false

namespace IccProfile

/-! ## What storage keeps of a text -/

/-- No question mark is a NUL, so single byte storage brings none in. -/
theorem Text.nulFree_asciiForm {s : String} (h : NulFree s) : NulFree (asciiForm s) := by
  intro c hc
  rw [asciiForm, String.toList_ofList] at hc
  obtain ⟨d, hd, hcd⟩ := List.mem_flatMap.mp hc
  unfold asciiChars at hcd
  split at hcd
  · rw [List.mem_singleton.mp hcd]
    exact h d hd
  · rw [List.eq_of_mem_replicate hcd]
    decide

namespace Profile

variable {source : Option Bytes} {p q : Profile} {signature : Signature} {text : String}

/-- The text of a tag that was read well. -/
theorem text_of_tag? {tag : Tag} (h : p.tag? signature = some tag) (hok : tag.status = .ok) :
    p.text signature = tag.data.textFor "en" "US" := by
  have hread : tag.isCorrupted = false := by
    rw [Tag.isCorrupted, hok]
    rfl
  simp only [Profile.text, textFor, h, hread]
  rfl

/-- The data that holds a text is localized, plain text or a description. -/
theorem textData_cases (p : Profile) (signature : Signature) (text : String) :
    (4 ≤ p.version.major ∧ p.textData signature text = .localized (LocalizedText.english text)) ∨
      (¬ 4 ≤ p.version.major ∧ (p.textData signature text = .text text ∨
        p.textData signature text = .description text)) := by
  unfold textData
  by_cases hversion : p.version.major ≥ 4
  · exact .inl ⟨hversion, if_pos hversion⟩
  · rw [if_neg hversion]
    refine .inr ⟨hversion, ?_⟩
    split
    · exact .inl rfl
    · exact .inr rfl

/-- The data that holds a text can be stored. -/
theorem exists_ofData?_textData (p : Profile) (signature : Signature) (text : String) :
    ∃ tag, Tag.ofData? signature (p.textData signature text) = some tag := by
  rcases textData_cases p signature text with ⟨-, hdata⟩ | ⟨-, hdata | hdata⟩ <;>
    exact ⟨_, by rw [hdata]; rfl⟩

theorem textFor_english (text : String) :
    (TagData.localized (LocalizedText.english text)).textFor "en" "US" = some text := by
  simp [TagData.textFor, LocalizedText.english, LocalizedText.best, LocalizedText.bestEntry?]

/-- The data holds the text. -/
theorem textFor_textData (p : Profile) (signature : Signature) (text : String) :
    (p.textData signature text).textFor "en" "US" = some text := by
  rcases textData_cases p signature text with ⟨-, hdata⟩ | ⟨-, hdata | hdata⟩
  · rw [hdata, textFor_english]
  · rw [hdata]
    rfl
  · rw [hdata]
    rfl

theorem fits_textData (p : Profile) (signature : Signature) (text : String) :
    (p.textData signature text).Fits := by
  rcases textData_cases p signature text with ⟨-, hdata⟩ | ⟨-, hdata | hdata⟩
  · have hcodes : Text.IsCode "en" ∧ Text.IsCode "US" := by decide
    rw [hdata]
    intro entry hentry
    rw [List.mem_singleton.mp hentry]
    exact hcodes
  · rw [hdata]
    trivial
  · rw [hdata]
    trivial

/-- Storage keeps a text without NUL, from version 4 on as it is and before it in ASCII. -/
theorem textFor_stored_textData (p : Profile) (signature : Signature) (hnul : Text.NulFree text) :
    (p.textData signature text).stored.textFor "en" "US" =
      some (if 4 ≤ p.version.major then text else Text.asciiForm text) := by
  have hascii := Text.beforeNul_eq_self (Text.nulFree_asciiForm hnul)
  rcases textData_cases p signature text with ⟨hversion, hdata⟩ | ⟨hversion, hdata⟩
  · have hplain : (LocalizedText.english text).NulFree := by
      intro entry hentry
      rw [List.mem_singleton.mp hentry]
      exact hnul
    rw [hdata, if_pos hversion, TagData.stored, LocalizedText.stored_eq_self hplain,
      textFor_english]
  · rw [if_neg hversion]
    rcases hdata with hdata | hdata
    · rw [hdata, TagData.stored, hascii]
      rfl
    · rw [hdata, TagData.stored, hascii]
      rfl

/-! ## The version that is written -/

/-- The version is written as it is, unless it is zero. -/
theorem read_version_writtenHeader (p : Profile) :
    HeaderField.version.read p.writtenHeader.val =
      if p.field .version = 0 then Version.v43.word else p.field .version := by
  have hfield : p.field .version =
      HeaderField.version.read (p.header.getD HeaderBlock.zero).val := by
    unfold field
    cases p.header with
    | none => exact (HeaderField.read_zero .version).symm
    | some header => rfl
  have hread : HeaderField.version.read
      ((ProfileId.zero.stampHeader (p.header.getD HeaderBlock.zero)).write .magic
        Signature.magic).val = p.field .version := by
    rw [HeaderBlock.val_write, HeaderField.read_write (by decide),
      HeaderBlock.val_stampHeader, HeaderField.read_stamp, hfield]
  simp only [writtenHeader, hread]
  rw [HeaderBlock.val_write, HeaderField.read_write (by decide)]
  split
  · exact HeaderField.read_of_holdsAt rfl (HeaderBlock.holdsAt_write .version rfl _ _)
  · exact hread

/-- What is read from the written form of a changed profile has the version that was written. -/
theorem field_version_fresh (h : p.modified = true) (hfit : headerSize ≤ p.toBytes.length) :
    (fresh p.toBytes hfit).field .version =
      if p.field .version = 0 then Version.v43.word else p.field .version := by
  have hbytes := toBytes_of_rewritten (unchangedBytes?_of_modified h)
  rw [← read_version_writtenHeader]
  simp only [field, fresh]
  rw [leadingHeader_container hbytes hfit, HeaderBlock.val_stampHeader, HeaderField.read_stamp,
    sizedHeader, HeaderBlock.val_write, HeaderField.read_write (by decide)]

/-- A written version below 4 is that of the profile. -/
theorem version_fresh_of_lt (h : p.modified = true) (hfit : headerSize ≤ p.toBytes.length)
    (hversion : ¬ 4 ≤ (fresh p.toBytes hfit).version.major) :
    (fresh p.toBytes hfit).version = p.version := by
  have hfield := field_version_fresh h hfit
  by_cases hzero : p.field .version = 0
  -- a version of zero is written as 4.3
  · rw [if_pos hzero] at hfield
    rw [version, hfield] at hversion
    exact absurd (by decide) hversion
  · rw [if_neg hzero] at hfield
    rw [version, version, hfield]

/-! ## Storing a text -/

/-- What storing a text makes of a profile: the text is found at once, and what is read from the
written form has it as storage keeps it. -/
structure TextStored (p : Profile) (signature : Signature) (text : String) (q : Profile) :
    Prop where
  modified_eq : q.modified = true
  version_eq : q.version = p.version
  text_eq : q.text signature = some text
  reloaded : q.toBytes.length < UInt32.size →
    ∃ hfit : headerSize ≤ q.toBytes.length, ofBytes q.toBytes = .ok (fresh q.toBytes hfit) ∧
      (fresh q.toBytes hfit).text signature =
        some (if 4 ≤ p.version.major then text else Text.asciiForm text)

theorem Consistent.textStored (h : Consistent source p) (hsignature : signature ≠ Signature.header)
    (hnul : Text.NulFree text) (hadd : p.addText signature text = .ok q) :
    TextStored p signature text q := by
  obtain ⟨tag, htag⟩ := exists_ofData?_textData p signature text
  obtain ⟨-, -, hsame⟩ := Tag.ofData?_eq_some htag
  have hheader : tag.isHeader = false := decide_eq_false (hsame ▸ hsignature)
  rw [addText, htag] at hadd
  obtain rfl := Except.ok.inj ((addTag_eq p hheader).symm.trans hadd)
  refine ⟨rfl, rfl, ?_, ?_⟩
  · obtain ⟨hok, hdata⟩ := Tag.content_of_ofData? htag
    have hfound := h.tag?_withTag hheader
    rw [hsame] at hfound
    rw [text_of_tag? hfound hok, hdata, textFor_textData]
  · intro hlength
    have hafter : Consistent source (p.withTag tag) := h.insertTag (.ofData htag) hheader none
    have haccepted := hafter.accepted_toBytes hlength
    obtain ⟨u, hfound, hok, hstored⟩ := h.stored_reloaded htag hsignature
      (fits_textData p signature text) hlength haccepted.headerSize_le
    refine ⟨haccepted.headerSize_le, ofBytes_of_accepted haccepted, ?_⟩
    rw [text_of_tag? hfound hok, hstored, textFor_stored_textData p signature hnul]

/-- A text can be stored under every signature but that of the header. -/
theorem addText_eq_serve (p : Profile) (hsignature : signature ≠ Signature.header)
    (text : String) : p.addText signature text = .ok (p.serve (.addText signature text)).2 := by
  obtain ⟨tag, htag⟩ := exists_ofData?_textData p signature text
  obtain ⟨-, -, hsame⟩ := Tag.ofData?_eq_some htag
  have hadd : p.addText signature text = .ok (p.withTag tag) := by
    rw [addText, htag]
    exact addTag_eq p (decide_eq_false (hsame ▸ hsignature))
  simp only [serve, hadd, answerChange]

/-- A text without NUL can be stored in every reachable profile, under every signature but that
of the header, and is then the text of this signature. It is also the text of this signature in
the profile that is read from the written form, when the profile is of version 4 or above or the
text is ASCII. A written profile of a version below 4 has a question mark for each byte of any
other character. -/
theorem text_addText {source : Option Bytes} {p : Profile} (hp : Reachable source p)
    {signature : Signature} (hsignature : signature ≠ Signature.header) {text : String}
    (hnul : Text.NulFree text) :
    ∃ q, p.addText signature text = .ok q ∧ q.text signature = some text ∧
      (q.toBytes.length < UInt32.size →
        ∃ r, ofBytes q.toBytes = .ok r ∧
          (4 ≤ p.version.major ∨ Text.isAscii text = true → r.text signature = some text) ∧
          (r.version.major < 4 → r.text signature = some (Text.asciiForm text))) := by
  have hadd := addText_eq_serve p hsignature text
  have hstored := hp.consistent.textStored hsignature hnul hadd
  refine ⟨_, hadd, hstored.text_eq, ?_⟩
  intro hlength
  obtain ⟨hfit, hread, hkept⟩ := hstored.reloaded hlength
  refine ⟨_, hread, ?_, ?_⟩
  · rintro (hversion | hascii)
    · rw [hkept, if_pos hversion]
    · rw [hkept, Text.asciiForm_eq_self hascii, ite_self]
  · intro hversion
    have hold := UInt8.not_le.mpr hversion
    rw [version_fresh_of_lt hstored.modified_eq hfit hold, hstored.version_eq] at hold
    rw [hkept, if_neg hold]

/-- A profile of version 4.3. -/
def current : Profile := ofField .version Version.v43.word

/-- The profile of version 4.3 with a copyright outside ASCII. -/
def currentCopyright : Profile := (current.serve (.addText Signature.copyright "© ICC")).2

theorem text_addText_current :
    Text.NulFree "© ICC" ∧ current.addText Signature.copyright "© ICC" = .ok currentCopyright ∧
      currentCopyright.toBytes.length < UInt32.size ∧
      ∃ r, ofBytes currentCopyright.toBytes = .ok r ∧
        r.text Signature.copyright = some "© ICC" := by
  have hnul : Text.NulFree "© ICC" := by decide
  have hadd : current.addText Signature.copyright "© ICC" = .ok currentCopyright :=
    addText_eq_serve current (by decide) "© ICC"
  have hreachable : Reachable none current := .ofField ..
  have hsignature : Signature.copyright ≠ Signature.header := by decide
  have hstored := hreachable.consistent.textStored hsignature hnul hadd
  have hlength : currentCopyright.toBytes.length < UInt32.size := by
    rw [length_toBytes_of_rewritten (unchangedBytes?_of_modified hstored.modified_eq)]
    decide +kernel
  obtain ⟨q, hq, -, hreload⟩ := text_addText hreachable hsignature hnul
  obtain rfl := Except.ok.inj (hadd.symm.trans hq)
  obtain ⟨r, hr, hkept, -⟩ := hreload hlength
  exact ⟨hnul, hadd, hlength, r, hr, hkept (.inl (by decide +kernel))⟩

/-- A profile of version 2. -/
def legacy : Profile := ofField .version 0x02000000

/-- The profile of version 2 with a copyright outside ASCII. -/
def legacyCopyright : Profile := (legacy.serve (.addText Signature.copyright "© ICC")).2

/-- Not every text that was stored is found in what is read from the written form. -/
theorem text_legacyCopyright :
    Reachable none legacy ∧ Text.NulFree "© ICC" ∧
      legacy.addText Signature.copyright "© ICC" = .ok legacyCopyright ∧
      legacyCopyright.text Signature.copyright = some "© ICC" ∧
      legacyCopyright.toBytes.length < UInt32.size ∧
      ∃ r, ofBytes legacyCopyright.toBytes = .ok r ∧
        r.text Signature.copyright = some "?? ICC" ∧
        r.text Signature.copyright ≠ some "© ICC" := by
  have hreachable : Reachable none legacy := .ofField ..
  have hnul : Text.NulFree "© ICC" := by decide
  have hadd : legacy.addText Signature.copyright "© ICC" = .ok legacyCopyright :=
    addText_eq_serve legacy (by decide) "© ICC"
  have hsignature : Signature.copyright ≠ Signature.header := by decide
  have hstored := hreachable.consistent.textStored hsignature hnul hadd
  have hlength : legacyCopyright.toBytes.length < UInt32.size := by
    rw [length_toBytes_of_rewritten (unchangedBytes?_of_modified hstored.modified_eq)]
    decide +kernel
  obtain ⟨hfit, hread, hkept⟩ := hstored.reloaded hlength
  have hlost : (if 4 ≤ legacy.version.major then "© ICC" else Text.asciiForm "© ICC") =
      "?? ICC" := by
    decide +kernel
  rw [hlost] at hkept
  refine ⟨hreachable, hnul, hadd, hstored.text_eq, hlength, _, hread, hkept, ?_⟩
  rw [hkept]
  decide

end Profile

end IccProfile
