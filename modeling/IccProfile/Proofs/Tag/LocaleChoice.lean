import IccProfile.Profile.Basic

/-!
# Two choices for a locale

For a language and a country there are the labels of the entries that have both codes, and
the text of the one entry that fits best. An entry that has one of the codes fits in part
(`fitsInPart?`): it counts for the text and not for the labels, which then are that of the
fallback (`selected_of_absent`). Hence the text belongs to a labeled entry when an entry has
both codes or none fits in part, and else exactly when the two texts are equal
(`ChoicesAgree`, `choices_agree`). Two languages are enough for texts that differ
(`best_not_labeled`).
-/

set_option autoImplicit false

namespace IccProfile.LocalizedText

variable {t : LocalizedText} {language country : String}

/-- The entries whose labels are given for a locale. -/
def selected (t : LocalizedText) (language? country? : Option String) : List LocalizedString :=
  match t.entries.filter (fits language? country?) with
  | [] => t.fallback?.toList
  | found => found

/-- The first entry of a language, else the first one of a country that is named. -/
def fitsInPart? (t : LocalizedText) (language country : String) : Option LocalizedString :=
  (t.entries.find? (·.language = language)).or
    (t.entries.find? fun e => country ≠ "" && e.country = country)

/-- Whether an entry has a language and a country. -/
def HasLocale (t : LocalizedText) (language country : String) : Prop :=
  ∃ e ∈ t.entries, e.language = language ∧ e.country = country

/-- The text that fits best is that of an entry whose label is given. -/
def BestIsLabeled (t : LocalizedText) (language country : String) : Prop :=
  ∃ e ∈ t.selected (some language) (some country), t.best language country = some e.text

/-! ## Labels -/

theorem select_eq (t : LocalizedText) (language? country? : Option String) :
    t.select language? country? =
      (t.selected language? country?).map LocalizedString.labeled := by
  unfold select selected
  cases t.entries.filter (fits language? country?) <;> rfl

/-- Something stands in for a locale unless there are no entries. -/
theorem fallback?_eq_none_iff : t.fallback? = none ↔ t.entries = [] := by
  rw [fallback?, Option.or_eq_none_iff, List.head?_eq_none_iff, and_iff_right_iff_imp]
  intro hnone
  rw [hnone, List.find?_nil]

theorem fits_iff {e : LocalizedString} :
    fits (some language) (some country) e = true ↔
      e.language = language ∧ e.country = country := by
  simp only [fits, Option.all_some, Bool.and_eq_true, decide_eq_true_eq]

/-- Where entries have the locale these are labeled. -/
theorem mem_selected_of_hasLocale (h : t.HasLocale language country) {e : LocalizedString} :
    e ∈ t.selected (some language) (some country) ↔
      e ∈ t.entries ∧ e.language = language ∧ e.country = country := by
  obtain ⟨found, hfound, hcodes⟩ := h
  unfold selected
  split
  · next hnone => exact absurd (fits_iff.mpr hcodes) (List.filter_eq_nil_iff.mp hnone found hfound)
  · rw [List.mem_filter, fits_iff]

/-- Where no entry has the locale only the fallback is labeled. -/
theorem selected_of_absent (h : ¬ t.HasLocale language country) :
    t.selected (some language) (some country) = t.fallback?.toList := by
  have hnone : t.entries.filter (fits (some language) (some country)) = [] := by
    rw [List.filter_eq_nil_iff]
    intro e he hfits
    exact h ⟨e, he, fits_iff.mp hfits⟩
  rw [selected, hnone]

/-! ## The text that fits best -/

/-- Where an entry has the locale the text is that of such an entry. -/
theorem exists_best_of_hasLocale (h : t.HasLocale language country) :
    ∃ e ∈ t.entries, (e.language = language ∧ e.country = country) ∧
      t.best language country = some e.text := by
  obtain ⟨found, hfound, hcodes⟩ := h
  cases hfirst : t.entries.find? fun e => e.language = language && e.country = country with
  | none =>
      rw [List.find?_eq_none] at hfirst
      exact absurd (by simpa using hcodes) (hfirst found hfound)
  | some e =>
      refine ⟨e, List.mem_of_find?_eq_some hfirst, ?_, ?_⟩
      · simpa using List.find?_some hfirst
      · rw [best, bestEntry?, hfirst, Option.some_or, Option.some_or, Option.some_or,
          Option.map_some]

/-- Where no entry has the locale it is that of the entry that fits in part, else the fallback. -/
theorem best_of_absent (h : ¬ t.HasLocale language country) :
    t.best language country =
      ((t.fitsInPart? language country).or t.fallback?).map (·.text) := by
  have hnone :
      (t.entries.find? fun e => e.language = language && e.country = country) = none := by
    rw [List.find?_eq_none]
    intro e he hcodes
    exact h ⟨e, he, by simpa using hcodes⟩
  rw [best, bestEntry?, hnone, Option.none_or, fitsInPart?]

theorem fitsInPart?_eq_none (h : ∀ e ∈ t.entries,
    e.language ≠ language ∧ (country = "" ∨ e.country ≠ country)) :
    t.fitsInPart? language country = none := by
  rw [fitsInPart?, Option.or_eq_none_iff, List.find?_eq_none, List.find?_eq_none]
  refine ⟨?_, ?_⟩
  · intro e he hlanguage
    exact (h e he).1 (of_decide_eq_true hlanguage)
  · intro e he hcountry
    obtain ⟨hnamed, hcode⟩ : country ≠ "" ∧ e.country = country := by simpa using hcountry
    exact (h e he).2.elim hnamed fun hne => hne hcode

/-! ## Agreement -/

/-- How the two choices for a locale belong together. -/
structure ChoicesAgree (t : LocalizedText) (language country : String) : Prop where
  /-- The labels are those of the selected entries. -/
  select_eq : t.select (some language) (some country) =
    (t.selected (some language) (some country)).map LocalizedString.labeled
  select_eq_nil_iff : t.select (some language) (some country) = [] ↔ t.entries = []
  best_eq_none_iff : t.best language country = none ↔ t.entries = []
  of_hasLocale : t.HasLocale language country → t.BestIsLabeled language country
  /-- Nothing fits in part. -/
  of_none : t.entries ≠ [] →
    (∀ e ∈ t.entries, e.language ≠ language ∧ (country = "" ∨ e.country ≠ country)) →
      t.BestIsLabeled language country
  /-- An entry fits in part only. -/
  of_part : ¬ t.HasLocale language country →
    ∀ e, t.fitsInPart? language country = some e →
      t.best language country = some e.text ∧
        ∃ other, t.fallback? = some other ∧
          t.select (some language) (some country) = [other.labeled] ∧
          (t.BestIsLabeled language country ↔ other.text = e.text)

theorem exists_fallback? (h : t.entries ≠ []) : ∃ other, t.fallback? = some other :=
  Option.ne_none_iff_exists'.mp fun hnone => h (fallback?_eq_none_iff.mp hnone)

theorem selected_eq_nil_iff :
    t.selected (some language) (some country) = [] ↔ t.entries = [] := by
  by_cases h : t.HasLocale language country
  · obtain ⟨e, he, hcodes⟩ := h
    have hselected := (mem_selected_of_hasLocale ⟨e, he, hcodes⟩).mpr ⟨he, hcodes⟩
    exact iff_of_false (List.ne_nil_of_mem hselected) (List.ne_nil_of_mem he)
  · rw [selected_of_absent h, Option.toList_eq_nil_iff, fallback?_eq_none_iff]

theorem best_eq_none_iff : t.best language country = none ↔ t.entries = [] := by
  by_cases h : t.HasLocale language country
  · obtain ⟨e, he, -, hbest⟩ := exists_best_of_hasLocale h
    rw [hbest]
    exact iff_of_false nofun (List.ne_nil_of_mem he)
  · rw [best_of_absent h, Option.map_eq_none_iff, Option.or_eq_none_iff, fallback?_eq_none_iff,
      and_iff_right_iff_imp]
    intro hempty
    exact fitsInPart?_eq_none fun e he => absurd (hempty ▸ he) List.not_mem_nil

/-- Where only the fallback is labeled the text is to be its text. -/
theorem bestIsLabeled_iff_of_absent (h : ¬ t.HasLocale language country) {other : LocalizedString}
    (hother : t.fallback? = some other) :
    t.BestIsLabeled language country ↔ t.best language country = some other.text := by
  rw [BestIsLabeled, selected_of_absent h, hother]
  simp only [Option.toList_some, List.mem_singleton, exists_eq_left]

/-- The text that fits a locale best is that of an entry whose label is given when an entry has
the locale or none fits in part, and else exactly when the texts are equal. -/
theorem choices_agree (t : LocalizedText) (language country : String) :
    ChoicesAgree t language country ∧
      ∀ (p : Profile) (signature : Signature) (tag : Tag), p.tag? signature = some tag →
        tag.isCorrupted = false → tag.data = .localized t →
          p.textFor signature language country = t.best language country ∧
            tag.texts (some language) (some country) =
              t.select (some language) (some country) := by
  refine ⟨⟨select_eq t _ _, ?_, best_eq_none_iff, ?_, ?_, ?_⟩, ?_⟩
  · rw [select_eq, List.map_eq_nil_iff, selected_eq_nil_iff]
  · intro h
    obtain ⟨e, he, hcodes, hbest⟩ := exists_best_of_hasLocale h
    exact ⟨e, (mem_selected_of_hasLocale h).mpr ⟨he, hcodes⟩, hbest⟩
  · intro hfilled hnone
    obtain ⟨other, hother⟩ := exists_fallback? hfilled
    have habsent : ¬ t.HasLocale language country :=
      fun ⟨e, he, hcodes⟩ => (hnone e he).1 hcodes.1
    rw [bestIsLabeled_iff_of_absent habsent hother, best_of_absent habsent,
      fitsInPart?_eq_none hnone, Option.none_or, hother, Option.map_some]
  · intro habsent e hpart
    have hbest : t.best language country = some e.text := by
      rw [best_of_absent habsent, hpart, Option.some_or, Option.map_some]
    have hfilled : t.entries ≠ [] := by
      intro hempty
      rw [best_eq_none_iff.mpr hempty] at hbest
      cases hbest
    obtain ⟨other, hother⟩ := exists_fallback? hfilled
    refine ⟨hbest, other, hother, ?_, ?_⟩
    · rw [select_eq, selected_of_absent habsent, hother]
      rfl
    · rw [bestIsLabeled_iff_of_absent habsent hother, hbest, Option.some.injEq, eq_comm]
  · intro p signature tag htag hread hdata
    refine ⟨?_, ?_⟩
    · simp only [Profile.textFor, htag, hread, hdata]
      rfl
    · simp only [Tag.texts, hread, hdata]
      rfl

/-- English before German. -/
def twoLanguages : LocalizedText := ⟨[⟨"en", "US", "Light"⟩, ⟨"de", "DE", "Licht"⟩]⟩

/-- A profile with these texts as its description. -/
def translated : Profile :=
  Profile.empty.setTags [Tag.ofBlock Signature.description twoLanguages.encode]

/-- The text of the profile is the German one for Germany and for Austria, its label the German one
for Germany only. -/
theorem choices_agree_translated :
    ∃ tag, translated.tag? Signature.description = some tag ∧
      translated.textFor Signature.description "de" "DE" = some "Licht" ∧
      tag.texts (some "de") (some "DE") = ["de_DE:Licht"] ∧
      translated.textFor Signature.description "de" "AT" = some "Licht" ∧
      tag.texts (some "de") (some "AT") = ["en_US:Light"] := by
  have htag : translated.tag? Signature.description =
      some (Tag.ofBlock Signature.description twoLanguages.encode) := by
    decide +kernel
  have hdata : (Tag.ofBlock Signature.description twoLanguages.encode).data =
      .localized twoLanguages := by
    decide +kernel
  have hread : (Tag.ofBlock Signature.description twoLanguages.encode).isCorrupted = false := by
    decide +kernel
  obtain ⟨-, hgermany⟩ := choices_agree twoLanguages "de" "DE"
  obtain ⟨-, haustria⟩ := choices_agree twoLanguages "de" "AT"
  obtain ⟨htext, hlabels⟩ := hgermany _ _ _ htag hread hdata
  obtain ⟨htext', hlabels'⟩ := haustria _ _ _ htag hread hdata
  refine ⟨_, htag, htext.trans ?_, hlabels.trans ?_, htext'.trans ?_, hlabels'.trans ?_⟩
  all_goals decide +kernel

/-- For Austria the German text is given, and the English label. -/
theorem best_not_labeled :
    twoLanguages.best "de" "AT" = some "Licht" ∧
      twoLanguages.select (some "de") (some "AT") = ["en_US:Light"] ∧
      ¬ twoLanguages.BestIsLabeled "de" "AT" := by
  refine ⟨by decide +kernel, by decide +kernel, ?_⟩
  rintro ⟨e, he, hbest⟩
  have hselected : twoLanguages.selected (some "de") (some "AT") = [⟨"en", "US", "Light"⟩] := by
    decide +kernel
  rw [hselected, List.mem_singleton] at he
  subst he
  exact absurd hbest (by decide +kernel)

end IccProfile.LocalizedText
