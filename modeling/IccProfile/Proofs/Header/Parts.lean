import IccProfile.Header.Basic
import IccProfile.Proofs.Header.Field

/-!
# The parts of a header and its fields

A header is seen in two ways: in its parts, which are read and written together, and as fields
that are read one by one. `Header.StandsIn h bs` says where each part of a header stands. A header
is read exactly where its parts stand (`Header.ofBytes?_eq_ok_iff`), and the written form of a
header is its parts in their places with zeros in the reserved bytes
(`Header.holdsAt_toBytes_iff`). So the three tables of places have to agree only with this one.

`Header.parts_agree_with_fields` concludes that the parts that are read are the values of the
fields, that writing them gives the header back but for the reserved bytes, and that what was
written is read again.
-/

set_option autoImplicit false

namespace IccProfile

open Bytes (HoldsAt)

variable {bs : Bytes} {offset : Nat}

/-! ## Parts of several numbers -/

namespace DateTime

variable {d : DateTime}

theorem toBytes_eq (d : DateTime) :
    d.toBytes = Bytes.ofWord16 d.year ++ Bytes.ofWord16 d.month ++ Bytes.ofWord16 d.day
      ++ Bytes.ofWord16 d.hour ++ Bytes.ofWord16 d.minute ++ Bytes.ofWord16 d.second := by
  simp [toBytes, parts]

@[simp] theorem length_toBytes (d : DateTime) : d.toBytes.length = 12 := by
  simp [toBytes_eq]

/-- The bytes of a date are those of its parts in their order. -/
theorem holdsAt_toBytes_iff :
    HoldsAt bs offset d.toBytes ↔
      HoldsAt bs offset (Bytes.ofWord16 d.year) ∧
        HoldsAt bs (offset + 2) (Bytes.ofWord16 d.month) ∧
        HoldsAt bs (offset + 4) (Bytes.ofWord16 d.day) ∧
        HoldsAt bs (offset + 6) (Bytes.ofWord16 d.hour) ∧
        HoldsAt bs (offset + 8) (Bytes.ofWord16 d.minute) ∧
        HoldsAt bs (offset + 10) (Bytes.ofWord16 d.second) := by
  rw [toBytes_eq]
  simp only [Bytes.holdsAt_append_iff, List.length_append, Bytes.length_ofWord16, Nat.reduceAdd,
    and_assoc]

/-- A date is read where its bytes stand. -/
theorem at?_eq_some_iff : at? bs offset = some d ↔ HoldsAt bs offset d.toBytes := by
  simp only [holdsAt_toBytes_iff, ← Bytes.u16At?_eq_some_iff, at?, Option.bind_eq_bind,
    Option.bind_eq_some_iff, Option.pure_def, Option.some.injEq]
  constructor
  · rintro ⟨year, hyear, month, hmonth, day, hday, hour, hhour, minute, hminute, second, hsecond,
      rfl⟩
    exact ⟨hyear, hmonth, hday, hhour, hminute, hsecond⟩
  · rintro ⟨hyear, hmonth, hday, hhour, hminute, hsecond⟩
    exact ⟨_, hyear, _, hmonth, _, hday, _, hhour, _, hminute, _, hsecond, rfl⟩

/-- Twelve bytes hold a date. -/
theorem exists_at? (h : offset + 12 ≤ bs.length) : ∃ d, at? bs offset = some d := by
  have hhalf (place : Nat) (hplace : place + 2 ≤ bs.length) := Bytes.exists_u16At? hplace
  obtain ⟨year, hyear⟩ := hhalf offset (by omega)
  obtain ⟨month, hmonth⟩ := hhalf (offset + 2) (by omega)
  obtain ⟨day, hday⟩ := hhalf (offset + 4) (by omega)
  obtain ⟨hour, hhour⟩ := hhalf (offset + 6) (by omega)
  obtain ⟨minute, hminute⟩ := hhalf (offset + 8) (by omega)
  obtain ⟨second, hsecond⟩ := hhalf (offset + 10) (by omega)
  refine ⟨⟨year, month, day, hour, minute, second⟩, ?_⟩
  simp only [at?, hyear, hmonth, hday, hhour, hminute, hsecond]
  rfl

end DateTime

namespace Xyz

variable {c : Xyz}

@[simp] theorem length_toBytes (c : Xyz) : c.toBytes.length = 12 := by
  simp [toBytes, Fixed.toBytes]

/-- The bytes of a color value are those of its parts in their order. -/
theorem holdsAt_toBytes_iff :
    HoldsAt bs offset c.toBytes ↔
      HoldsAt bs offset (Bytes.ofWord32 c.x.word) ∧
        HoldsAt bs (offset + 4) (Bytes.ofWord32 c.y.word) ∧
        HoldsAt bs (offset + 8) (Bytes.ofWord32 c.z.word) := by
  simp only [toBytes, Fixed.toBytes, Bytes.holdsAt_append_iff, List.length_append,
    Bytes.length_ofWord32, Nat.reduceAdd, and_assoc]

/-- A color value is read where its bytes stand. -/
theorem at?_eq_some_iff : at? bs offset = some c ↔ HoldsAt bs offset c.toBytes := by
  simp only [holdsAt_toBytes_iff, ← Bytes.u32At?_eq_some_iff, at?, Option.bind_eq_bind,
    Option.bind_eq_some_iff, Option.pure_def, Option.some.injEq]
  constructor
  · rintro ⟨x, hx, y, hy, z, hz, rfl⟩
    exact ⟨hx, hy, hz⟩
  · rintro ⟨hx, hy, hz⟩
    exact ⟨_, hx, _, hy, _, hz, rfl⟩

/-- Twelve bytes hold a color value. -/
theorem exists_at? (h : offset + 12 ≤ bs.length) : ∃ c, at? bs offset = some c := by
  have hword (place : Nat) (hplace : place + 4 ≤ bs.length) := Bytes.exists_u32At? hplace
  obtain ⟨x, hx⟩ := hword offset (by omega)
  obtain ⟨y, hy⟩ := hword (offset + 4) (by omega)
  obtain ⟨z, hz⟩ := hword (offset + 8) (by omega)
  refine ⟨⟨.ofWord x, .ofWord y, .ofWord z⟩, ?_⟩
  simp only [at?, hx, hy, hz]
  rfl

end Xyz

namespace ProfileId

variable {id : ProfileId}

/-- An ID is read where its bytes stand. -/
theorem stored?_eq_some_iff : stored? bs = some id ↔ HoldsAt bs idOffset id.bytes := by
  rw [stored?, Option.bind_eq_some_iff, HoldsAt, id.length_eq]
  constructor
  · rintro ⟨part, hread, hid⟩
    unfold ofBytes? at hid
    split at hid
    · obtain rfl := Option.some.inj hid
      exact hread
    · cases hid
  · intro hread
    exact ⟨id.bytes, hread, dif_pos id.length_eq⟩

theorem exists_stored? (h : headerSize ≤ bs.length) : ∃ id, stored? bs = some id := by
  have hread := Bytes.slice?_of_le (Nat.le_trans (by decide : idOffset + 16 ≤ headerSize) h)
  refine ⟨⟨_, Bytes.length_of_slice? hread⟩, ?_⟩
  rw [stored?, hread, Option.bind_some, ofBytes?, dif_pos]

end ProfileId

namespace Version

variable {v : Version}

/-- The minor number and the patch number are stored in half a byte each. -/
def InHalves (v : Version) : Prop := v.minor < 16 ∧ v.patch < 16

theorem inHalves_ofBytes (major minorPatch : UInt8) : (ofBytes major minorPatch).InHalves := by
  have hlt := minorPatch.toNat_lt
  simp only [InHalves, ofBytes, UInt8.lt_iff_toNat_lt, UInt8.toNat_div, UInt8.toNat_mod,
    UInt8.reduceToNat]
  omega

/-- Two bytes are read as the version that is written by them. -/
theorem minorPatch_ofBytes (major minorPatch : UInt8) :
    (ofBytes major minorPatch).minorPatch = minorPatch := by
  have hlt := minorPatch.toNat_lt
  apply UInt8.toNat_inj.mp
  simp only [ofBytes, Version.minorPatch, UInt8.toNat_add, UInt8.toNat_mul, UInt8.toNat_div,
    UInt8.toNat_mod, UInt8.reduceToNat]
  omega

theorem ofBytes_minorPatch (h : v.InHalves) : ofBytes v.major v.minorPatch = v := by
  obtain ⟨major, minor, patch⟩ := v
  simp only [InHalves, UInt8.lt_iff_toNat_lt, UInt8.reduceToNat] at h
  simp only [ofBytes, minorPatch, Version.mk.injEq, true_and, ← UInt8.toNat_inj, UInt8.toNat_add,
    UInt8.toNat_mul, UInt8.toNat_div, UInt8.toNat_mod, UInt8.reduceToNat]
  omega

/-- The version is the upper half of its field. -/
theorem word_eq (h : HoldsAt bs 8 [v.major, v.minorPatch]) (hlength : headerSize ≤ bs.length) :
    v.word = HeaderField.version.read bs / 0x10000 * 0x10000 := by
  have hfit : 12 ≤ bs.length := Nat.le_trans (by decide) hlength
  obtain ⟨hmajor, hminorPatch⟩ := (Bytes.holdsAt_pair_iff (by omega)).mp h
  have hbehind : HoldsAt bs 10 [bs.getD 10 0, bs.getD 11 0] :=
    (Bytes.holdsAt_pair_iff (by omega)).mpr ⟨rfl, rfl⟩
  have hfield : HoldsAt bs 8 ([v.major, v.minorPatch] ++ [bs.getD 10 0, bs.getD 11 0]) :=
    Bytes.holdsAt_append_iff.mpr ⟨h, hbehind⟩
  have hread : HeaderField.version.read bs =
      UInt32.ofNat (Bytes.toNat [v.major, v.minorPatch, bs.getD 10 0, bs.getD 11 0]) := by
    have hslice : Bytes.slice? bs 8 4 = some _ := hfield.slice? rfl
    rw [HeaderField.read]
    simp only [HeaderField.offset, HeaderField.width, hslice, List.cons_append, List.nil_append]
  have ha := v.major.toNat_lt
  have hb := v.minorPatch.toNat_lt
  have hc := (bs.getD 10 0).toNat_lt
  have hd := (bs.getD 11 0).toNat_lt
  apply UInt32.toNat_inj.mp
  rw [hread]
  simp only [word, Bytes.toNat, List.foldl_cons, List.foldl_nil, UInt32.toNat_mul,
    UInt32.toNat_div, UInt32.toNat_ofNat', UInt32.reduceToNat, UInt8.reduceToNat]
  omega

end Version

/-! ## Headers -/

namespace Header

variable {h : Header}

/-- The parts of a header with their places. -/
def places (h : Header) : List (Nat × Bytes) :=
  [(0, Bytes.ofWord32 h.size), (4, Bytes.ofWord32 h.cmm),
    (8, [h.version.major, h.version.minorPatch]), (12, Bytes.ofWord32 h.deviceClass),
    (16, Bytes.ofWord32 h.colorSpace), (20, Bytes.ofWord32 h.pcs), (24, h.created.toBytes),
    (36, Bytes.ofWord32 h.magic), (40, Bytes.ofWord32 h.platform), (44, Bytes.ofWord32 h.flags),
    (48, Bytes.ofWord32 h.manufacturer), (52, Bytes.ofWord32 h.model),
    (56, Bytes.ofWord64 h.attributes), (64, Bytes.ofWord32 h.intent),
    (68, h.illuminant.toBytes), (80, Bytes.ofWord32 h.creator), (idOffset, h.id.bytes)]

/-- The parts of a header stand in their places. -/
def StandsIn (h : Header) (bs : Bytes) : Prop := ∀ place ∈ h.places, HoldsAt bs place.1 place.2

/-- The value that a header in its parts has for a field. -/
def value (h : Header) : HeaderField → UInt32
  | .colorSpace => h.colorSpace
  | .pcs => h.pcs
  | .size => h.size
  | .cmm => h.cmm
  | .version => h.version.word
  | .profileClass => h.deviceClass
  | .magic => h.magic
  | .platform => h.platform
  | .flags => h.flags
  | .manufacturer => h.manufacturer
  | .model => h.model
  | .intent => h.intent
  | .creator => h.creator
  | .year => h.created.year.toUInt32
  | .month => h.created.month.toUInt32
  | .day => h.created.day.toUInt32
  | .hours => h.created.hour.toUInt32
  | .minutes => h.created.minute.toUInt32
  | .seconds => h.created.second.toUInt32
  | .illuminantX => h.illuminant.x.word
  | .illuminantY => h.illuminant.y.word
  | .illuminantZ => h.illuminant.z.word

/-- The bytes of a header with zeros in the reserved ones. -/
def withoutReserved (bs : Bytes) : Bytes :=
  Bytes.patch (Bytes.patch bs 10 [0, 0]) 100 (List.replicate 28 0)

/-- The fields have the values of the parts that stand in the header; the two lower bytes of the
version field are reserved. -/
theorem StandsIn.value_eq (hs : h.StandsIn bs) (hlength : headerSize ≤ bs.length)
    (f : HeaderField) :
    h.value f = if f = .version then f.read bs / 0x10000 * 0x10000 else f.read bs := by
  simp only [StandsIn, places, List.forall_mem_cons] at hs
  obtain ⟨hsize, hcmm, hversion, hclass, hspace, hpcs, hcreated, hmagic, hplatform, hflags,
    hmanufacturer, hmodel, -, hintent, hilluminant, hcreator, -⟩ := hs
  obtain ⟨hyear, hmonth, hday, hhour, hminute, hsecond⟩ := DateTime.holdsAt_toBytes_iff.mp hcreated
  obtain ⟨hx, hy, hz⟩ := Xyz.holdsAt_toBytes_iff.mp hilluminant
  cases f with
  | version => exact Version.word_eq hversion hlength
  | colorSpace => exact (HeaderField.read_of_holdsAt rfl hspace).symm
  | pcs => exact (HeaderField.read_of_holdsAt rfl hpcs).symm
  | size => exact (HeaderField.read_of_holdsAt rfl hsize).symm
  | cmm => exact (HeaderField.read_of_holdsAt rfl hcmm).symm
  | profileClass => exact (HeaderField.read_of_holdsAt rfl hclass).symm
  | magic => exact (HeaderField.read_of_holdsAt rfl hmagic).symm
  | platform => exact (HeaderField.read_of_holdsAt rfl hplatform).symm
  | flags => exact (HeaderField.read_of_holdsAt rfl hflags).symm
  | manufacturer => exact (HeaderField.read_of_holdsAt rfl hmanufacturer).symm
  | model => exact (HeaderField.read_of_holdsAt rfl hmodel).symm
  | intent => exact (HeaderField.read_of_holdsAt rfl hintent).symm
  | creator => exact (HeaderField.read_of_holdsAt rfl hcreator).symm
  | year => exact (HeaderField.read_of_half rfl hyear).symm
  | month => exact (HeaderField.read_of_half rfl hmonth).symm
  | day => exact (HeaderField.read_of_half rfl hday).symm
  | hours => exact (HeaderField.read_of_half rfl hhour).symm
  | minutes => exact (HeaderField.read_of_half rfl hminute).symm
  | seconds => exact (HeaderField.read_of_half rfl hsecond).symm
  | illuminantX => exact (HeaderField.read_of_holdsAt rfl hx).symm
  | illuminantY => exact (HeaderField.read_of_holdsAt rfl hy).symm
  | illuminantZ => exact (HeaderField.read_of_holdsAt rfl hz).symm

/-! ### Writing -/

theorem length_toBytes (h : Header) : h.toBytes.length = headerSize := by
  unfold toBytes
  simp only [List.length_append, Bytes.length_ofWord32, Bytes.length_ofWord64,
    DateTime.length_toBytes, Xyz.length_toBytes, h.id.length_eq, List.length_cons, List.length_nil,
    List.length_replicate, Nat.reduceAdd, headerSize]

/-- A written header is its parts in their places, and zeros in the reserved bytes. -/
theorem holdsAt_toBytes_iff :
    HoldsAt bs 0 h.toBytes ↔
      h.StandsIn bs ∧ HoldsAt bs 10 [0, 0] ∧ HoldsAt bs 100 (List.replicate 28 0) := by
  have hversion : [h.version.major, h.version.minorPatch, 0, 0] =
      [h.version.major, h.version.minorPatch] ++ [0, 0] := rfl
  unfold toBytes
  rw [hversion]
  simp only [List.append_assoc, Bytes.holdsAt_append_iff, Bytes.length_ofWord32,
    Bytes.length_ofWord64, DateTime.length_toBytes, Xyz.length_toBytes, h.id.length_eq,
    List.length_cons, List.length_nil, Nat.reduceAdd, and_assoc, StandsIn, places,
    List.forall_mem_cons, List.not_mem_nil, false_imp_iff, implies_true, true_and]
  -- the reserved bytes of the version stand among the parts
  constructor
  · rintro ⟨hsize, hcmm, hversion, hreserved, hclass, hspace, hpcs, hcreated, hmagic, hplatform,
      hflags, hmanufacturer, hmodel, hattributes, hintent, hilluminant, hcreator, hid, htail⟩
    exact ⟨hsize, hcmm, hversion, hclass, hspace, hpcs, hcreated, hmagic, hplatform, hflags,
      hmanufacturer, hmodel, hattributes, hintent, hilluminant, hcreator, hid, hreserved, htail⟩
  · rintro ⟨hsize, hcmm, hversion, hclass, hspace, hpcs, hcreated, hmagic, hplatform, hflags,
      hmanufacturer, hmodel, hattributes, hintent, hilluminant, hcreator, hid, hreserved, htail⟩
    exact ⟨hsize, hcmm, hversion, hreserved, hclass, hspace, hpcs, hcreated, hmagic, hplatform,
      hflags, hmanufacturer, hmodel, hattributes, hintent, hilluminant, hcreator, hid, htail⟩

/-- The parts of a header lie apart from its reserved bytes. -/
theorem apart_of_mem_places {place : Nat × Bytes} (hplace : place ∈ h.places) :
    (place.1 + place.2.length ≤ 10 ∨ 12 ≤ place.1) ∧ place.1 + place.2.length ≤ 100 := by
  revert place
  simp [places, h.id.length_eq, idOffset]

/-- The parts of a header stand in it as well without its reserved bytes. -/
theorem standsIn_withoutReserved (hs : h.StandsIn bs) :
    h.StandsIn (withoutReserved (bs.take headerSize)) := by
  intro place hplace
  obtain ⟨hapart, hbefore⟩ := apart_of_mem_places hplace
  have htake := (hs place hplace).take (Nat.le_trans hbefore (by decide : 100 ≤ headerSize))
  exact (htake.patch hapart).patch (.inl hbefore)

/-- Written again, the parts that stand in a header are this header without its reserved bytes. -/
theorem StandsIn.toBytes_eq (hs : h.StandsIn bs) (hlength : headerSize ≤ bs.length) :
    h.toBytes = withoutReserved (bs.take headerSize) := by
  have htake : (bs.take headerSize).length = headerSize := by
    rw [List.length_take, Nat.min_eq_left hlength]
  have htotal : (withoutReserved (bs.take headerSize)).length = headerSize := by
    rw [withoutReserved, Bytes.length_patch, Bytes.length_patch, htake]
  -- what was overwritten with zeros holds zeros
  have hversion : HoldsAt (withoutReserved (bs.take headerSize)) 10 [0, 0] := by
    apply (Bytes.holdsAt_patch ?_).patch (.inl (by decide))
    rw [htake]
    decide
  have htail : HoldsAt (withoutReserved (bs.take headerSize)) 100 (List.replicate 28 0) := by
    apply Bytes.holdsAt_patch
    rw [Bytes.length_patch, htake]
    decide
  have hwritten := holdsAt_toBytes_iff.mpr ⟨standsIn_withoutReserved hs, hversion, htail⟩
  have hread := hwritten.slice? (htotal.trans h.length_toBytes.symm)
  rw [Bytes.slice?_self] at hread
  exact (Option.some.inj hread).symm

/-! ### Reading -/

/-- A header whose version fits its half bytes is read exactly where its parts stand. -/
theorem ofBytes?_eq_ok_iff :
    ofBytes? bs = .ok h ↔
      headerSize ≤ bs.length ∧ h.magic = Signature.magic ∧ h.version.InHalves ∧ h.StandsIn bs := by
  constructor
  · intro hread
    unfold ofBytes? at hread
    split at hread
    · cases hread
    next hlength =>
    split at hread
    · cases hread
    next hmagic =>
    have hfit : 128 ≤ bs.length := Nat.not_lt.mp hlength
    have hdate : 24 + 12 ≤ bs.length := by omega
    have hxyz : 68 + 12 ≤ bs.length := by omega
    obtain ⟨created, hcreated⟩ := DateTime.exists_at? hdate
    obtain ⟨illuminant, hilluminant⟩ := Xyz.exists_at? hxyz
    obtain ⟨id, hid⟩ := ProfileId.exists_stored? hfit
    rw [hcreated, hilluminant, hid] at hread
    obtain rfl := Except.ok.inj hread
    refine ⟨hfit, Decidable.not_not.mp hmagic, Version.inHalves_ofBytes .., ?_⟩
    have hword (offset : Nat) (h : offset + 4 ≤ 128) := Bytes.holdsAt_wordAt (Nat.le_trans h hfit)
    simp only [StandsIn, places, List.forall_mem_cons]
    refine ⟨hword 0 (by decide), hword 4 (by decide), ?_, hword 12 (by decide),
      hword 16 (by decide), hword 20 (by decide), DateTime.at?_eq_some_iff.mp hcreated,
      hword 36 (by decide), hword 40 (by decide), hword 44 (by decide), hword 48 (by decide),
      hword 52 (by decide), (Bytes.word64_eq_iff (by omega)).mp rfl, hword 64 (by decide),
      Xyz.at?_eq_some_iff.mp hilluminant, hword 80 (by decide),
      ProfileId.stored?_eq_some_iff.mp hid, fun _ hnone => absurd hnone List.not_mem_nil⟩
    rw [Version.minorPatch_ofBytes]
    exact (Bytes.holdsAt_pair_iff (by omega)).mpr ⟨rfl, rfl⟩
  · rintro ⟨hfit, hcode, hhalves, hs⟩
    have hlength : 128 ≤ bs.length := hfit
    simp only [StandsIn, places, List.forall_mem_cons] at hs
    obtain ⟨hsize, hcmm, hversion, hclass, hspace, hpcs, hcreated, hmagic, hplatform, hflags,
      hmanufacturer, hmodel, hattributes, hintent, hilluminant, hcreator, hid, -⟩ := hs
    obtain ⟨hmajor, hminorPatch⟩ := (Bytes.holdsAt_pair_iff (by omega)).mp hversion
    rw [ofBytes?, if_neg (Nat.not_lt.mpr hfit), hmagic.wordAt_word, if_neg (not_not_intro hcode),
      hsize.wordAt_word, hcmm.wordAt_word, hmajor, hminorPatch, Version.ofBytes_minorPatch hhalves,
      hclass.wordAt_word, hspace.wordAt_word, hpcs.wordAt_word,
      DateTime.at?_eq_some_iff.mpr hcreated, hplatform.wordAt_word, hflags.wordAt_word,
      hmanufacturer.wordAt_word, hmodel.wordAt_word,
      (Bytes.word64_eq_iff (by omega)).mpr hattributes, hintent.wordAt_word,
      Xyz.at?_eq_some_iff.mpr hilluminant, hcreator.wordAt_word,
      ProfileId.stored?_eq_some_iff.mpr hid]
    rfl

/-- A byte string that is long enough and carries the code is read as a header. -/
theorem exists_ofBytes? (hlength : headerSize ≤ bs.length)
    (hmagic : Bytes.wordAt bs 36 = Signature.magic) : ∃ h, ofBytes? bs = .ok h := by
  unfold ofBytes?
  rw [if_neg (Nat.not_lt.mpr hlength), if_neg (not_not_intro hmagic)]
  exact ⟨_, rfl⟩

/-- The two views of a header agree. Every byte string that is long enough and carries the code
`acsp` is read in parts; these are the values of the fields, the version in its two upper bytes,
and written again they give the header with zeros in the reserved bytes. A header in parts with
this code and a version that fits its half bytes is written and read back as it is. -/
theorem parts_agree_with_fields :
    (∀ bs : Bytes, headerSize ≤ bs.length → HoldsAt bs 36 (Text.toAscii "acsp") →
      ∃ h, ofBytes? bs = .ok h ∧
        (∀ f, h.value f = if f = .version then f.read bs / 0x10000 * 0x10000 else f.read bs) ∧
        h.version.InHalves ∧ h.toBytes = withoutReserved (bs.take headerSize)) ∧
    (∀ h : Header, h.magic = Signature.magic → h.version.InHalves →
      ofBytes? h.toBytes = .ok h) := by
  constructor
  · intro bs hlength hcode
    have hword : Text.toAscii "acsp" = Bytes.ofWord32 Signature.magic := by decide +kernel
    rw [hword] at hcode
    obtain ⟨h, hread⟩ := exists_ofBytes? hlength hcode.wordAt_word
    obtain ⟨-, -, hhalves, hs⟩ := ofBytes?_eq_ok_iff.mp hread
    exact ⟨h, hread, hs.value_eq hlength, hhalves, hs.toBytes_eq hlength⟩
  · intro h hmagic hhalves
    have hlength := h.length_toBytes
    have hself := Bytes.holdsAt_self h.toBytes
    exact ofBytes?_eq_ok_iff.mpr
      ⟨Nat.le_of_eq hlength.symm, hmagic, hhalves, (holdsAt_toBytes_iff.mp hself).1⟩

/-- A header in which no two bytes of parts are alike, with two bytes behind it. -/
def countedBytes : Bytes :=
  Bytes.patch ((List.range 130).map UInt8.ofNat) 36 (Text.toAscii "acsp")

/-- A header with the greatest version and a color value below zero. -/
def lateVersion : Header :=
  { (default : Header) with
    version := ⟨255, 15, 15⟩, magic := Signature.magic, attributes := 0x0102030405060708
    illuminant := ⟨.ofWord 0x80000000, .ofWord 0xFFFFFFFF, .ofWord 0x10000⟩ }

theorem parts_agree_with_fields_countedBytes :
    headerSize ≤ countedBytes.length ∧ HoldsAt countedBytes 36 (Text.toAscii "acsp") ∧
      (∃ h, ofBytes? countedBytes = .ok h ∧ h.value .version = 0x08090000 ∧
        h.value .minutes = 0x2021 ∧ h.value .illuminantZ = 0x4c4d4e4f ∧
        h.toBytes = withoutReserved (countedBytes.take headerSize)) ∧
      lateVersion.magic = Signature.magic ∧ lateVersion.version.InHalves ∧
      ofBytes? lateVersion.toBytes = .ok lateVersion := by
  have hlength : headerSize ≤ countedBytes.length := by decide +kernel
  have hcode : HoldsAt countedBytes 36 (Text.toAscii "acsp") := by
    rw [HoldsAt]
    decide +kernel
  have hhalves : lateVersion.version.InHalves := ⟨by decide, by decide⟩
  obtain ⟨h, hread, hvalue, -, hwritten⟩ := parts_agree_with_fields.1 countedBytes hlength hcode
  refine ⟨hlength, hcode, ⟨h, hread, ?_, ?_, ?_, hwritten⟩, rfl, hhalves,
    parts_agree_with_fields.2 lateVersion rfl hhalves⟩
  · rw [hvalue]
    decide +kernel
  · rw [hvalue]
    decide +kernel
  · rw [hvalue]
    decide +kernel

end Header

end IccProfile
