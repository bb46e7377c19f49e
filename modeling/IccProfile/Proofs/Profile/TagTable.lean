import IccProfile.Proofs.Profile.View

/-!
# Damage to a tag table

A container is taken by five tests, and the first one that fails gives the error
(`ofBytesWith_error_iff`). One of them gives the whole table room, so the walk over an accepted
table never ends early: the tags are one for each entry (`tags_fresh_eq`).

A tag is made of its entry, the preferred color module of the header and the bytes of its range
(`tagOfEntry_congr`). So damage to one entry stays there: whatever the twelve bytes of the entry
become, the container is accepted (`Accepted.patch_entry`), and a tag changes only if its own
entry was hit or if its range holds one of these bytes (`tagOfEntry_patch_entry`).
-/

set_option autoImplicit false

namespace IccProfile

/-! ## Tests of a container -/

/-- A test with the error of its failure. -/
structure ContainerTest where
  passed : Bool
  failure : Error

namespace ContainerTest

/-- The error of the first test that fails. -/
def firstFailure? (tests : List ContainerTest) : Option Error :=
  (tests.find? fun test => !test.passed).map (·.failure)

variable {test : ContainerTest} {tests : List ContainerTest}

theorem firstFailure?_cons_of_passed (h : test.passed = true) :
    firstFailure? (test :: tests) = firstFailure? tests := by
  rw [firstFailure?, List.find?_cons_of_neg (by simp [h]), firstFailure?]

theorem firstFailure?_cons_of_failed (h : test.passed = false) :
    firstFailure? (test :: tests) = some test.failure := by
  rw [firstFailure?, List.find?_cons_of_pos (by simp [h]), Option.map_some]

theorem firstFailure?_eq_none_iff :
    firstFailure? tests = none ↔ ∀ test ∈ tests, test.passed = true := by
  simp [firstFailure?]

end ContainerTest

namespace Header

variable {data : Bytes} {header : Header}

theorem ofBytes?_eq_error (hlength : headerSize ≤ data.length)
    (hmagic : Bytes.wordAt data 36 ≠ Signature.magic) :
    ofBytes? data = .error (.badMagic (Bytes.wordAt data 36)) := by
  rw [ofBytes?, if_neg (Nat.not_lt.mpr hlength), if_pos hmagic]

theorem validate_eq_error {length : Nat} (hmagic : header.magic = Signature.magic)
    (hsize : length < header.size.toNat) :
    header.validate length = .error (.sizeMismatch header.size length) := by
  rw [validate, if_neg (not_not_intro hmagic), if_pos hsize]

end Header

namespace Profile

open ContainerTest

variable {flags : LoadFlags} {data : Bytes}

/-- The bytes in the place of the code. -/
def codeBytes (data : Bytes) : Bytes := (data.drop 36).take 4

/-- The tests of a container in their order: its length, its code, its declared length, the room
for its tag table, and its version. -/
def containerTests (flags : LoadFlags) (data : Bytes) : List ContainerTest :=
  [⟨minProfileSize ≤ data.length, .container (.tooSmall minProfileSize data.length)⟩,
    ⟨codeBytes data = Text.toAscii "acsp", .container (.badMagic (Bytes.wordAt data 36))⟩,
    ⟨(Bytes.wordAt data 0).toNat ≤ data.length,
      .container (.sizeMismatch (Bytes.wordAt data 0) data.length)⟩,
    ⟨minProfileSize + 12 * declaredTagCount data ≤ data.length,
      .container (.corrupted (.tagTable (declaredTagCount data) data.length))⟩,
    ⟨flags.accepts (data.getD 8 0), .versionFiltered (data.getD 8 0)⟩]

/-- The four bytes of the code write its word. -/
theorem codeBytes_eq_iff (h : headerSize ≤ data.length) :
    codeBytes data = Text.toAscii "acsp" ↔ Bytes.wordAt data 36 = Signature.magic := by
  have hcode : Text.toAscii "acsp" = Bytes.ofWord32 Signature.magic := by decide +kernel
  rw [codeBytes, hcode]
  exact (Bytes.wordAt_eq_iff (Nat.le_trans (by decide) h)).symm

/-- A container that passes all tests is accepted. -/
theorem accepted_of_firstFailure?_eq_none (h : firstFailure? (containerTests flags data) = none) :
    Accepted data ∧ flags.accepts (data.getD 8 0) = true := by
  have htests := firstFailure?_eq_none_iff.mp h
  simp only [containerTests, List.forall_mem_cons, decide_eq_true_eq] at htests
  obtain ⟨hlength, hcode, hsize, htable, hversion, -⟩ := htests
  have hmagic := (codeBytes_eq_iff (Nat.le_trans (by decide) hlength)).mp hcode
  exact ⟨⟨hlength, hmagic, hsize, by omega⟩, hversion⟩

/-- Reading fails with the error of the first test that fails. -/
theorem ofBytesWith_eq_error {error : Error}
    (h : firstFailure? (containerTests flags data) = some error) :
    ofBytesWith flags data = .error error := by
  unfold containerTests at h
  unfold ofBytesWith
  simp only [bind, Except.bind, pure, Except.pure]
  -- a test that is passed leads to the next one, one that fails ends the reading
  by_cases hlength : minProfileSize ≤ data.length
  case neg =>
    rw [firstFailure?_cons_of_failed (decide_eq_false hlength)] at h
    rw [if_pos (Nat.lt_of_not_le hlength)]
    exact congrArg Except.error (Option.some.inj h)
  rw [firstFailure?_cons_of_passed (decide_eq_true hlength)] at h
  rw [if_neg (Nat.not_lt.mpr hlength)]
  have hheaderSize : headerSize ≤ data.length := Nat.le_trans (by decide) hlength
  by_cases hmagic : Bytes.wordAt data 36 = Signature.magic
  case neg =>
    rw [firstFailure?_cons_of_failed
      (decide_eq_false fun hcode => hmagic ((codeBytes_eq_iff hheaderSize).mp hcode))] at h
    rw [Header.ofBytes?_eq_error hheaderSize hmagic]
    exact congrArg Except.error (Option.some.inj h)
  rw [firstFailure?_cons_of_passed
    (decide_eq_true ((codeBytes_eq_iff hheaderSize).mpr hmagic))] at h
  obtain ⟨header, hheader⟩ := Header.exists_ofBytes? hheaderSize hmagic
  obtain ⟨-, -, hmagicPart, hsizePart, hmajor⟩ := Header.of_ofBytes? hheader
  rw [hheader]
  simp only [mapError_ok]
  by_cases hsize : (Bytes.wordAt data 0).toNat ≤ data.length
  case neg =>
    rw [firstFailure?_cons_of_failed (decide_eq_false hsize)] at h
    rw [Header.validate_eq_error (hmagicPart.trans hmagic)
      (by rw [hsizePart]; exact Nat.lt_of_not_le hsize), hsizePart]
    exact congrArg Except.error (Option.some.inj h)
  rw [firstFailure?_cons_of_passed (decide_eq_true hsize)] at h
  have hvalid : header.validate data.length = .ok () :=
    Header.validate_ok_iff.mpr ⟨hmagicPart.trans hmagic, by rw [hsizePart]; exact hsize⟩
  rw [hvalid]
  simp only [mapError_ok]
  by_cases htable : minProfileSize + 12 * declaredTagCount data ≤ data.length
  case neg =>
    rw [firstFailure?_cons_of_failed (decide_eq_false htable)] at h
    rw [if_pos (by omega)]
    exact congrArg Except.error (Option.some.inj h)
  rw [firstFailure?_cons_of_passed (decide_eq_true htable)] at h
  rw [if_neg (by omega), hmajor]
  cases hversion : flags.accepts (data.getD 8 0) with
  | true =>
      rw [firstFailure?_cons_of_passed hversion] at h
      cases h
  | false =>
      rw [firstFailure?_cons_of_failed hversion] at h
      exact congrArg Except.error (Option.some.inj h)

/-- Reading succeeds when no test fails. -/
theorem exists_ofBytesWith_of_firstFailure?_eq_none
    (h : firstFailure? (containerTests flags data) = none) :
    ∃ p, ofBytesWith flags data = .ok p := by
  obtain ⟨haccepted, hversion⟩ := accepted_of_firstFailure?_eq_none h
  exact ⟨_, ofBytesWith_ok_iff.mpr ⟨haccepted, hversion, rfl⟩⟩

theorem ofBytesWith_error_iff {error : Error} :
    ofBytesWith flags data = .error error ↔
      firstFailure? (containerTests flags data) = some error := by
  constructor
  · intro h
    cases hfailure : firstFailure? (containerTests flags data) with
    | none =>
        obtain ⟨p, hp⟩ := exists_ofBytesWith_of_firstFailure?_eq_none hfailure
        rw [hp] at h
        cases h
    | some first =>
        rw [ofBytesWith_eq_error hfailure] at h
        exact congrArg some (Except.error.inj h)
  · exact ofBytesWith_eq_error

/-- Reading succeeds exactly when all tests are passed. -/
theorem exists_ofBytesWith_iff :
    (∃ p, ofBytesWith flags data = .ok p) ↔
      ∀ test ∈ containerTests flags data, test.passed = true := by
  rw [← firstFailure?_eq_none_iff]
  constructor
  · rintro ⟨p, hp⟩
    cases hfailure : firstFailure? (containerTests flags data) with
    | none => rfl
    | some first =>
        rw [ofBytesWith_eq_error hfailure] at hp
        cases hp
  · exact exists_ofBytesWith_of_firstFailure?_eq_none

/-! ## Entries -/

/-- The bytes of an entry: signature, offset and size. -/
def entrySize : Nat := 12

/-- The place of an entry. -/
def entryStart (index : Nat) : Nat := minProfileSize + index * entrySize

/-- The bytes of an entry, when the container has room for them. -/
def entryBytes? (data : Bytes) (index : Nat) : Option Bytes :=
  Bytes.slice? data (entryStart index) entrySize

/-- The first byte of the range that an entry names. -/
def rangeStart (data : Bytes) (index : Nat) : Nat :=
  (Bytes.wordAt data (entryStart index + 4)).toNat

/-- The number of bytes in the range that an entry names. -/
def rangeSize (data : Bytes) (index : Nat) : Nat :=
  (Bytes.wordAt data (entryStart index + 8)).toNat

/-- The bytes of the range that an entry names, none when the range leaves the container. -/
def range? (data : Bytes) (index : Nat) : Option Bytes :=
  Bytes.slice? data (rangeStart data index) (rangeSize data index)

/-- The range that an entry names holds a byte of an entry. -/
def RangeTouches (data : Bytes) (index entry : Nat) : Prop :=
  ∃ place, rangeStart data index ≤ place ∧ place < rangeStart data index + rangeSize data index ∧
    entryStart entry ≤ place ∧ place < entryStart entry + entrySize

/-- The tag of an entry. -/
def tagOfEntry (data : Bytes) (preferred : Signature) (index : Nat) : Tag :=
  Tag.ofContainer data (Bytes.wordAt data (entryStart index))
    (Bytes.wordAt data (entryStart index + 4)) (Bytes.wordAt data (entryStart index + 8)) preferred

/-- A table that the container has room for gives one tag for each entry. -/
theorem tagsFrom_eq_map {preferred : Signature} {count index : Nat}
    (h : entryStart (index + count) ≤ data.length) :
    tagsFrom data preferred count index =
      (List.range' index count).map (tagOfEntry data preferred) := by
  induction count generalizing index with
  | zero => rfl
  | succ count ih =>
      have hword (i : Nat) (hi : i + 4 ≤ entrySize) :
          Bytes.u32At? data (entryStart index + i) =
            some (Bytes.wordAt data (entryStart index + i)) := by
        have hfit : entryStart index + i + 4 ≤ data.length := by
          simp only [entryStart, entrySize] at h hi ⊢
          omega
        rw [Bytes.wordAt, Bytes.u32At?, Bytes.slice?_of_le hfit, Option.map_some, Option.getD_some]
      have hfirst := hword 0 (by decide)
      rw [Nat.add_zero] at hfirst
      have hend : entryStart (index + 1 + count) ≤ data.length := by
        rw [Nat.add_assoc, Nat.add_comm 1]
        exact h
      have hrest := ih hend
      have hplace : minProfileSize + index * 12 = entryStart index := rfl
      simp only [tagsFrom, hplace, hfirst, hword 4 (by decide), hword 8 (by decide), hrest]
      rfl

theorem entryStart_le (h : Accepted data) {index : Nat} (hindex : index ≤ declaredTagCount data) :
    entryStart index ≤ data.length := by
  have htable := h.table_le
  simp only [entryStart, entrySize]
  omega

/-- The tags of an accepted container are those of its entries. -/
theorem tags_fresh_eq (h : Accepted data) :
    (fresh data h.headerSize_le).tags =
      (List.range (declaredTagCount data)).map (tagOfEntry data (Bytes.wordAt data 4)) := by
  have hcmm : HeaderField.cmm.read (leadingHeader data h.headerSize_le).val =
      Bytes.wordAt data 4 := by
    have hfit : 4 + 4 ≤ data.length := Nat.le_trans (by decide) h.headerSize_le
    have hread : Bytes.slice? (data.take headerSize) 4 4 = some ((data.drop 4).take 4) := by
      rw [Bytes.slice?_take (by decide), Bytes.slice?_of_le hfit]
    rw [Bytes.wordAt, Bytes.u32At?, Bytes.slice?_of_le hfit, Option.map_some, Option.getD_some]
    simp only [HeaderField.read, leadingHeader, HeaderField.offset, HeaderField.width, hread]
  have htags := tags_of_unread (p := fresh data h.headerSize_le) rfl rfl
  simp only [fresh, hcmm] at htags ⊢
  rw [htags, tagsFrom_eq_map (by rw [Nat.zero_add]; exact entryStart_le h (Nat.le_refl _)),
    List.range_eq_range']

theorem getElem?_tags_fresh (h : Accepted data) {index : Nat}
    (hindex : index < declaredTagCount data) :
    (fresh data h.headerSize_le).tags[index]? =
      some (tagOfEntry data (Bytes.wordAt data 4) index) := by
  rw [tags_fresh_eq h, List.getElem?_map, List.getElem?_range hindex, Option.map_some]

/-! ## What a tag is made of -/

/-- The words of an entry are those of its bytes. -/
theorem wordAt_of_entryBytes? {entry : Bytes} {index : Nat}
    (h : entryBytes? data index = some entry) {i : Nat} (hi : i + 4 ≤ entrySize) :
    Bytes.wordAt data (entryStart index + i) = Bytes.wordAt entry i := by
  rw [Bytes.wordAt, Bytes.wordAt, Bytes.u32At?, Bytes.u32At?, Bytes.slice?_of_slice? h hi]

theorem exists_entryBytes? (h : Accepted data) {index : Nat}
    (hindex : index < declaredTagCount data) : ∃ entry, entryBytes? data index = some entry := by
  have hfit : entryStart index + entrySize ≤ data.length := by
    have hnext := entryStart_le h (Nat.succ_le_of_lt hindex)
    rw [entryStart, Nat.succ_mul, ← Nat.add_assoc] at hnext
    exact hnext
  exact ⟨_, Bytes.slice?_of_le hfit⟩

section TwoContainers

variable {other : Bytes} {index : Nat} {entry : Bytes}

/-- Equal entries name the same range. -/
theorem range_congr (hdata : entryBytes? data index = some entry)
    (hother : entryBytes? other index = some entry) :
    rangeStart other index = rangeStart data index ∧
      rangeSize other index = rangeSize data index := by
  rw [rangeStart, rangeStart, rangeSize, rangeSize,
    wordAt_of_entryBytes? hdata (by decide), wordAt_of_entryBytes? hdata (by decide),
    wordAt_of_entryBytes? hother (by decide), wordAt_of_entryBytes? hother (by decide)]
  exact ⟨rfl, rfl⟩

/-- Entry, color module and the bytes of the range make the tag. -/
theorem tagOfEntry_congr (hdata : entryBytes? data index = some entry)
    (hother : entryBytes? other index = some entry)
    (hrange : range? other index = range? data index) (preferred : Signature) :
    tagOfEntry other preferred index = tagOfEntry data preferred index := by
  have hword (i : Nat) (hi : i + 4 ≤ entrySize) :
      Bytes.wordAt other (entryStart index + i) = Bytes.wordAt data (entryStart index + i) := by
    rw [wordAt_of_entryBytes? hdata hi, wordAt_of_entryBytes? hother hi]
  have hfirst := hword 0 (by decide)
  rw [Nat.add_zero] at hfirst
  simp only [range?, rangeStart, rangeSize, hword 4 (by decide), hword 8 (by decide)] at hrange
  simp only [tagOfEntry, Tag.ofContainer, hfirst, hword 4 (by decide), hword 8 (by decide), hrange]

end TwoContainers

/-! ## Overwriting an entry -/

section Overwritten

variable {hit : Nat} {new : Bytes}

/-- The words in front of the table stay. -/
theorem wordAt_patch_entry {offset : Nat} (h : offset + 4 ≤ minProfileSize) :
    Bytes.wordAt (Bytes.patch data (entryStart hit) new) offset = Bytes.wordAt data offset := by
  have hfront : offset + 4 ≤ entryStart hit := Nat.le_trans h (Nat.le_add_right ..)
  exact Bytes.wordAt_patch (.inl hfront)

theorem declaredTagCount_patch_entry :
    declaredTagCount (Bytes.patch data (entryStart hit) new) = declaredTagCount data := by
  rw [declaredTagCount, wordAt_patch_entry (by decide), declaredTagCount]

/-- Whatever is written into an entry, the container stays accepted. -/
theorem Accepted.patch_entry (h : Accepted data) :
    Accepted (Bytes.patch data (entryStart hit) new) := by
  have hfront : ∀ word ∈ decisiveWords, word + 4 ≤ minProfileSize := by decide
  apply (accepted_patch_iff _).mpr h
  exact fun word hword => .inl (Nat.le_trans (hfront word hword) (Nat.le_add_right ..))

/-- A container that is read is read with any entry overwritten. -/
theorem ofBytesWith_patch_entry (h : Accepted data)
    (hversion : flags.accepts (data.getD 8 0) = true) :
    ofBytesWith flags (Bytes.patch data (entryStart hit) new) =
      .ok (fresh (Bytes.patch data (entryStart hit) new) (h.patch_entry).headerSize_le) := by
  have hfront : 8 < entryStart hit := Nat.lt_of_lt_of_le (by decide) (Nat.le_add_right ..)
  have hmajor : (Bytes.patch data (entryStart hit) new).getD 8 0 = data.getD 8 0 := by
    rw [List.getD_eq_getElem?_getD, Bytes.getElem?_patch, if_neg (by omega),
      List.getD_eq_getElem?_getD]
  exact ofBytesWith_ok_iff.mpr ⟨h.patch_entry, by rwa [hmajor], rfl⟩

variable {index : Nat} {entry : Bytes}

/-- The other entries stay. -/
theorem entryBytes?_patch_entry (hnew : new.length = entrySize) (hother : index ≠ hit) :
    entryBytes? (Bytes.patch data (entryStart hit) new) index = entryBytes? data index := by
  apply Bytes.slice?_patch
  rw [hnew]
  simp only [entryStart, entrySize]
  omega

/-- A range without a byte of the entry holds what it held. -/
theorem range?_patch_entry (hnew : new.length = entrySize) (hother : index ≠ hit)
    (hentry : entryBytes? data index = some entry) (hapart : ¬ RangeTouches data index hit) :
    range? (Bytes.patch data (entryStart hit) new) index = range? data index := by
  obtain ⟨hstart, hsize⟩ := range_congr hentry ((entryBytes?_patch_entry hnew hother).trans hentry)
  rw [range?, hstart, hsize, range?]
  apply Bytes.slice?_congr (Bytes.length_patch ..)
  intro place hfrom hto
  rw [Bytes.getElem?_patch, hnew,
    if_neg fun hin => hapart ⟨place, hfrom, hto, hin.2.1, hin.2.2⟩]

/-- A tag stays when neither its entry nor its range was hit. -/
theorem tagOfEntry_patch_entry (hnew : new.length = entrySize) (hother : index ≠ hit)
    (hentry : entryBytes? data index = some entry) (hapart : ¬ RangeTouches data index hit)
    (preferred : Signature) :
    tagOfEntry (Bytes.patch data (entryStart hit) new) preferred index =
      tagOfEntry data preferred index :=
  tagOfEntry_congr hentry ((entryBytes?_patch_entry hnew hother).trans hentry)
    (range?_patch_entry hnew hother hentry hapart) preferred

end Overwritten

/-! ## Isolation -/

/-- A container is read exactly when it passes the five tests, and otherwise the first test that
fails gives the error. What is read has one tag for each declared entry. A tag whose range leaves
the container is corrupted and has no bytes; every tag is a function of its entry, the color
module of the header and the bytes of its range. So a container with one entry overwritten is
still read, with as many tags, and the tags of the other entries stay unless their ranges hold
one of the overwritten bytes. -/
theorem tags_isolated (flags : LoadFlags) (data : Bytes) :
    ((∃ p, ofBytesWith flags data = .ok p) ↔
        ∀ test ∈ containerTests flags data, test.passed = true) ∧
      (∀ error, ofBytesWith flags data = .error error ↔
        firstFailure? (containerTests flags data) = some error) ∧
      ∀ p, ofBytesWith flags data = .ok p →
        p.tags.length = declaredTagCount data ∧
        (∀ index < declaredTagCount data, range? data index = none →
          ∃ tag, p.tags[index]? = some tag ∧ tag.status = .corrupted ∧ tag.block = []) ∧
        (∀ (flags' : LoadFlags) (other : Bytes) (q : Profile), ofBytesWith flags' other = .ok q →
          ∀ index < declaredTagCount data, index < declaredTagCount other →
            entryBytes? other index = entryBytes? data index →
            Bytes.wordAt other 4 = Bytes.wordAt data 4 →
            range? other index = range? data index → q.tags[index]? = p.tags[index]?) ∧
        ∀ hit < declaredTagCount data, ∀ new : Bytes, new.length = entrySize →
          ∃ q, ofBytesWith flags (Bytes.patch data (entryStart hit) new) = .ok q ∧
            q.tags.length = p.tags.length ∧
            ∀ index, index ≠ hit → ¬ RangeTouches data index hit →
              q.tags[index]? = p.tags[index]? := by
  refine ⟨exists_ofBytesWith_iff, fun error => ofBytesWith_error_iff, ?_⟩
  intro p hp
  obtain ⟨haccepted, hversion, rfl⟩ := ofBytesWith_ok_iff.mp hp
  have hcount (data : Bytes) (h : Accepted data) :
      (fresh data h.headerSize_le).tags.length = declaredTagCount data := by
    rw [tags_fresh_eq h, List.length_map, List.length_range]
  refine ⟨hcount data haccepted, ?_, ?_, ?_⟩
  · intro index hindex hrange
    have hcorrupted := Tag.ofContainer_of_none (Bytes.wordAt data (entryStart index))
      (Bytes.wordAt data 4) hrange
    exact ⟨_, getElem?_tags_fresh haccepted hindex, hcorrupted.2, hcorrupted.1⟩
  · intro flags' other q hq index hindex hindex' hentry hcmm hrange
    obtain ⟨haccepted', -, rfl⟩ := ofBytesWith_ok_iff.mp hq
    obtain ⟨entry, hentryData⟩ := exists_entryBytes? haccepted hindex
    rw [getElem?_tags_fresh haccepted' hindex', getElem?_tags_fresh haccepted hindex, hcmm,
      tagOfEntry_congr hentryData (hentry.trans hentryData) hrange]
  · intro hit _ new hnew
    refine ⟨_, ofBytesWith_patch_entry haccepted hversion, ?_, ?_⟩
    · rw [hcount _ haccepted.patch_entry, hcount _ haccepted, declaredTagCount_patch_entry]
    · intro index hother hapart
      by_cases hindex : index < declaredTagCount data
      · obtain ⟨entry, hentry⟩ := exists_entryBytes? haccepted hindex
        have hindex' : index < declaredTagCount (Bytes.patch data (entryStart hit) new) := by
          rwa [declaredTagCount_patch_entry]
        rw [getElem?_tags_fresh haccepted.patch_entry hindex', getElem?_tags_fresh haccepted hindex,
          wordAt_patch_entry (by decide), tagOfEntry_patch_entry hnew hother hentry hapart]
      -- behind the table there is no tag before and after
      · rw [List.getElem?_eq_none (by rw [hcount _ haccepted.patch_entry,
            declaredTagCount_patch_entry]; omega),
          List.getElem?_eq_none (by rw [hcount _ haccepted]; omega)]

/-- A container of version 2 with three entries: a copyright far behind its end, a description, and
a maker whose size is the greatest word. -/
def strayRanges : Bytes :=
  let description := PlainText.encode "A"
  Bytes.ofSize (168 + description.length) ++ List.replicate 4 0 ++ [2, 0, 0, 0]
    ++ List.replicate 24 0 ++ Text.toAscii "acsp" ++ List.replicate 88 0 ++ Bytes.ofSize 3
    ++ (Bytes.ofWord32 Signature.copyright ++ Bytes.ofSize 1048576 ++ Bytes.ofSize 64)
    ++ (Bytes.ofWord32 Signature.description ++ Bytes.ofSize 168 ++ Bytes.ofSize description.length)
    ++ (Bytes.ofWord32 Signature.deviceMaker ++ Bytes.ofSize 168 ++ Bytes.ofSize 4294967295)
    ++ description

/-- It is read when version 2 is asked for, and refused when version 4 is. -/
theorem tags_isolated_strayRanges :
    ofBytesWith { version4 := true } strayRanges = .error (.versionFiltered 2) ∧
      ∃ p, ofBytesWith { version2 := true } strayRanges = .ok p ∧ p.tags.length = 3 ∧
        (∃ tag, p.tags[2]? = some tag ∧ tag.status = .corrupted ∧ tag.block = []) ∧
        ∃ q, ofBytesWith { version2 := true }
            (Bytes.patch strayRanges (entryStart 0) (List.replicate 12 255)) = .ok q ∧
          q.tags.length = 3 ∧ q.tags[1]? = p.tags[1]? := by
  obtain ⟨-, hrefused, -⟩ := tags_isolated { version4 := true } strayRanges
  refine ⟨(hrefused _).mpr (by decide +kernel), ?_⟩
  obtain ⟨htests, -, hread⟩ := tags_isolated { version2 := true } strayRanges
  obtain ⟨p, hp⟩ := htests.mpr (by decide +kernel)
  have hcount : declaredTagCount strayRanges = 3 := by decide +kernel
  obtain ⟨hlength, hstray, -, hpatched⟩ := hread p hp
  rw [hcount] at hlength hstray hpatched
  have hstart : rangeStart strayRanges 1 = 168 := by decide +kernel
  -- the description lies behind the table
  have hapart : ¬ RangeTouches strayRanges 1 0 := by
    rintro ⟨place, hfrom, -, -, hto⟩
    rw [hstart] at hfrom
    simp only [entryStart, entrySize, minProfileSize] at hto
    omega
  obtain ⟨q, hq, hqLength, hqTags⟩ := hpatched 0 (by decide) (List.replicate 12 255) rfl
  exact ⟨p, hp, hlength, hstray 2 (by decide) (by decide +kernel), q, hq, hqLength.trans hlength,
    hqTags 1 (by decide) hapart⟩

end Profile

end IccProfile
