import IccProfile.Proofs.Tag.Dictionary
import IccProfile.Proofs.Tag.Sequence
import IccProfile.Tag.Data

/-!
# Decoding undoes encoding

`TagData.stored` is the image of tag data in storage: strings end at their first NUL,
single byte strings have a question mark for each byte outside ASCII, all else is
kept. `TagData.decode_encoded` says that decoding the written form of any data that
fits its fields gives this image; `TagData.stored_eq_self` says when the image is the
data itself.

The types `text`, `desc`, `XYZ`, `sf32` and `sig` are read back here, those with a
table in modules of their own.
-/

set_option autoImplicit false

namespace IccProfile

open Bytes (HoldsAt)

/-! ## Single byte text -/

namespace PlainText

/-- Reading a written block gives what storage keeps. -/
theorem decode_encode (s : String) :
    decode (encode s) =
      .ok (Text.beforeNul (Text.asciiForm s),
        8 + min ((Text.beforeNul (Text.asciiForm s)).utf8ByteSize + 1)
          ((Text.utf8 s).length + 1)) := by
  have hhead : (blockHead Signature.typeText).length = 8 := by simp [blockHead]
  have hblock : encode s = blockHead Signature.typeText ++ (Text.toAscii s ++ [0]) := by
    rw [encode, List.append_assoc]
  have hlength : ¬ (encode s).length < 8 := by
    rw [hblock, List.length_append, hhead]
    omega
  rw [decode, if_neg hlength, hblock, List.drop_left' hhead]
  simp only [Text.ofBytes_toAscii, List.length_append, Text.length_toAscii, List.length_singleton]

end PlainText

namespace DescriptionText

/-- Reading a written block gives what storage keeps, and uses all of it. -/
theorem decode_encode {s : String} (hlength : (encode s).length < UInt32.size) :
    decode (encode s) =
      .ok (Text.beforeNul (Text.asciiForm s), (encode s).length) := by
  have hblock : encode s = blockHead Signature.typeDescription
      ++ (Bytes.ofSize ((Text.toAscii s).length + 1) ++ ((Text.toAscii s ++ [0])
        ++ List.replicate trailerSize 0)) := by
    simp [encode]
  have htotal : (encode s).length = 12 + ((Text.toAscii s).length + 1) + trailerSize := by
    simp only [hblock, blockHead, List.length_append, Bytes.length_ofWord32, Bytes.length_ofSize,
      List.length_cons, List.length_nil, List.length_replicate]
    omega
  have hall := Bytes.holdsAt_self (encode s)
  rw [hblock] at hall
  -- the count stands behind the head, the text behind the count
  have hcount : HoldsAt _ 8 _ := hall.behind (by simp [blockHead])
  have hcounted : HoldsAt _ 12 _ := hcount.behind (by simp)
  have hascii := hcounted.left
  rw [← hblock] at hcount hascii
  have hread : Bytes.slice? (encode s) 12 ((Text.toAscii s).length + 1) =
      some (Text.toAscii s ++ [0]) := hascii.slice? (by simp)
  rw [decode, hcount.left.u32At?]
  simp only [UInt32.toNat_ofNat_of_lt' (show (Text.toAscii s).length + 1 < UInt32.size by omega),
    hread, Text.ofBytes_toAscii]
  rw [← htotal, Nat.min_self]

end DescriptionText

/-! ## Numbers -/

theorem length_flatMap_ofWord32 (ws : List UInt32) :
    (ws.flatMap Bytes.ofWord32).length = ws.length * 4 := by
  induction ws with
  | nil => rfl
  | cons w ws ih =>
      rw [List.flatMap_cons, List.length_append, ih, Bytes.length_ofWord32, List.length_cons]
      omega

/-- The pieces of stored words are the words one by one. -/
theorem chunks_flatMap_ofWord32 (ws : List UInt32) :
    Bytes.chunks 4 (ws.flatMap Bytes.ofWord32) = ws.map Bytes.ofWord32 := by
  rw [Bytes.chunks, length_flatMap_ofWord32, Nat.mul_div_cancel _ (by decide)]
  induction ws with
  | nil => rfl
  | cons w ws ih =>
      have hw := Bytes.length_ofWord32 w
      rw [List.flatMap_cons, List.length_cons, Bytes.splitEvery, List.take_left' hw,
        List.drop_left' hw, ih, List.map_cons]

/-- Stored words read back. -/
theorem wordsOfBytes_flatMap (ws : List UInt32) :
    wordsOfBytes (ws.flatMap Bytes.ofWord32) = ws := by
  rw [wordsOfBytes, chunks_flatMap_ofWord32, List.map_map]
  exact List.map_id'' Bytes.ofNat_toNat_ofWord32 ws

theorem drop_blockHead (type : Signature) (body : Bytes) :
    (blockHead type ++ body).drop 8 = body := by
  rw [List.drop_left' (by simp [blockHead])]

theorem length_blockHead (type : Signature) : (blockHead type).length = 8 := by
  simp [blockHead]

namespace Fixed

theorem ofWord_word (x : Fixed) : ofWord x.word = x := by
  rw [ofWord, word, Int32.toInt32_toUInt32]

/-- Reading a written block gives the numbers. -/
theorem decodeAll_encodeAll (values : List Fixed) :
    decodeAll (encodeAll values) = .ok (values, (encodeAll values).length) := by
  have hbytes : values.flatMap toBytes = (values.map word).flatMap Bytes.ofWord32 := by
    rw [List.flatMap_map]
    rfl
  have hvalues : (values.map word).map ofWord = values := by
    rw [List.map_map]
    exact List.map_id'' ofWord_word values
  have hlength : (encodeAll values).length = 8 + values.length * 4 := by
    rw [encodeAll, List.length_append, length_blockHead, hbytes, length_flatMap_ofWord32,
      List.length_map]
  rw [decodeAll, if_neg (by omega), hlength, encodeAll, drop_blockHead, hbytes,
    wordsOfBytes_flatMap]
  simp only [hvalues]

end Fixed

namespace Xyz

/-- The stored words of color values. -/
def words (values : List Xyz) : List UInt32 :=
  values.flatMap fun c => [c.x.word, c.y.word, c.z.word]

theorem ofWords_words (values : List Xyz) : ofWords (words values) = values := by
  induction values with
  | nil => rfl
  | cons c values ih =>
      rw [words] at ih ⊢
      simp only [List.flatMap_cons, List.cons_append, List.nil_append, ofWords, ih,
        Fixed.ofWord_word]

theorem length_words (values : List Xyz) : (words values).length = values.length * 3 := by
  induction values with
  | nil => rfl
  | cons c values ih =>
      rw [words] at ih ⊢
      rw [List.flatMap_cons, List.length_append, ih, List.length_cons]
      simp only [List.length_cons, List.length_nil]
      omega

theorem flatMap_toBytes (values : List Xyz) :
    values.flatMap toBytes = (words values).flatMap Bytes.ofWord32 := by
  rw [words, List.flatMap_assoc]
  rfl

/-- Reading a written block of at least one color value gives the values. -/
theorem decodeAll_encodeAll {values : List Xyz} (h : values ≠ []) :
    decodeAll (encodeAll values) = .ok (values, (encodeAll values).length) := by
  have hlength : (encodeAll values).length = 8 + values.length * 12 := by
    rw [encodeAll, List.length_append, length_blockHead, flatMap_toBytes,
      length_flatMap_ofWord32, length_words]
    omega
  rw [decodeAll, hlength, encodeAll, drop_blockHead, flatMap_toBytes, wordsOfBytes_flatMap,
    ofWords_words]
  cases values with
  | nil => exact absurd rfl h
  | cons c values => rfl

end Xyz

/-! ## Tag data -/

namespace TagData

/-- The image of tag data in storage. -/
def stored : TagData → TagData
  | .text s => .text (Text.beforeNul (Text.asciiForm s))
  | .description s => .description (Text.beforeNul (Text.asciiForm s))
  | .localized t => .localized t.stored
  | .dictionary d => .dictionary d.stored
  | .sequence ps => .sequence ps.stored
  | .xyz values => .xyz values
  | .fixed values => .fixed values
  | .signature code => .signature code
  | .other type => .other type

/-- The data fits the fields of its stored form: there is a color value where one is needed,
and languages and countries are codes. -/
def Fits : TagData → Prop
  | .localized t => t.HasCodes
  | .xyz values => values ≠ []
  | .sequence ps => ps.HasCodes
  | _ => True

/-- No string holds a NUL, and strings of single bytes are ASCII. -/
def IsPlain : TagData → Prop
  | .text s => Text.isAscii s = true ∧ Text.NulFree s
  | .description s => Text.isAscii s = true ∧ Text.NulFree s
  | .localized t => t.NulFree
  | .dictionary d => d.NulFree
  | .sequence ps => ps.NulFree
  | _ => True

/-- Storage keeps plain data as it is. -/
theorem stored_eq_self {d : TagData} (h : d.IsPlain) : d.stored = d := by
  cases d with
  | text s => rw [stored, Text.asciiForm_eq_self h.1, Text.beforeNul_eq_self h.2]
  | description s => rw [stored, Text.asciiForm_eq_self h.1, Text.beforeNul_eq_self h.2]
  | localized t => rw [stored, LocalizedText.stored_eq_self h]
  | dictionary d => rw [stored, Dictionary.stored_eq_self h]
  | sequence ps => rw [stored, ProfileSequence.stored_eq_self h]
  | xyz values => rfl
  | fixed values => rfl
  | signature code => rfl
  | other type => rfl

/-- The type code at the start of a block chooses the decoder. -/
theorem decode_of_holdsAt {block : Bytes} {type : Signature}
    (h : HoldsAt block 0 (Bytes.ofWord32 type)) : decode block = decodeType type block := by
  rw [decode, h.u32At?_word]

theorem holdsAt_blockHead (type : Signature) (body : Bytes) :
    HoldsAt (blockHead type ++ body) 0 (Bytes.ofWord32 type) :=
  (Bytes.holdsAt_self (blockHead type ++ body)).left.left

/-- A written block starts with the type code of its data. -/
theorem holdsAt_type {d : TagData} {b : Bytes} (hb : d.encode? = some b) :
    HoldsAt b 0 (Bytes.ofWord32 d.type) := by
  cases d with
  | text s =>
      obtain rfl := Option.some.inj hb
      rw [PlainText.encode, List.append_assoc]
      exact holdsAt_blockHead ..
  | description s =>
      obtain rfl := Option.some.inj hb
      simp only [DescriptionText.encode, List.append_assoc]
      exact holdsAt_blockHead ..
  | localized t =>
      obtain rfl := Option.some.inj hb
      exact (LocalizedText.holdsAt_encode t).1
  | dictionary d =>
      obtain rfl := Option.some.inj hb
      exact (Dictionary.holdsAt_encode d).1
  | sequence ps =>
      obtain rfl := Option.some.inj hb
      exact (ProfileSequence.holdsAt_encode ps).1
  | xyz values =>
      obtain rfl := Option.some.inj hb
      exact holdsAt_blockHead ..
  | fixed values =>
      obtain rfl := Option.some.inj hb
      exact holdsAt_blockHead ..
  | signature code =>
      obtain rfl := Option.some.inj hb
      exact holdsAt_blockHead ..
  | other type => exact absurd hb (Option.some_ne_none b).symm

/-- A written `sig` block gives its code back. -/
theorem decodeSignature_written (code : Signature) :
    decodeSignature (blockHead Signature.typeSignature ++ Bytes.ofWord32 code) =
      .ok (code, 12) := by
  have hcode : HoldsAt (blockHead Signature.typeSignature ++ Bytes.ofWord32 code) 8
      (Bytes.ofWord32 code) :=
    (Bytes.holdsAt_self _).behind (by rw [length_blockHead])
  rw [decodeSignature, hcode.u32At?_word]

section Decoders

variable (block : Bytes)

theorem decodeType_text : decodeType Signature.typeText block =
    (PlainText.decode block).map fun r => (.text r.1, r.2) := rfl

theorem decodeType_description : decodeType Signature.typeDescription block =
    (DescriptionText.decode block).map fun r => (.description r.1, r.2) := rfl

theorem decodeType_localized : decodeType Signature.typeLocalized block =
    (LocalizedText.decode block).map fun r => (.localized r.1, r.2) := rfl

theorem decodeType_dictionary : decodeType Signature.typeDictionary block =
    (Dictionary.decode block).map fun r => (.dictionary r.1, r.2) := rfl

theorem decodeType_xyz : decodeType Signature.typeXyz block =
    (Xyz.decodeAll block).map fun r => (.xyz r.1, r.2) := rfl

theorem decodeType_fixed : decodeType Signature.typeFixed block =
    (Fixed.decodeAll block).map fun r => (.fixed r.1, r.2) := rfl

theorem decodeType_signature : decodeType Signature.typeSignature block =
    (decodeSignature block).map fun r => (.signature r.1, r.2) := rfl

theorem decodeType_sequence : decodeType Signature.typeSequence block =
    (ProfileSequence.decode block).map fun r => (.sequence r.1, r.2) := rfl

end Decoders

/-- Decoding a written block gives the image of the data, and plain data is read to the end of
its block. -/
theorem decode_written {d : TagData} {b : Bytes} (hb : d.encode? = some b)
    (hlength : b.length < UInt32.size) (hfits : d.Fits) :
    ∃ used, decode b = .ok (d.stored, used) ∧ (d.IsPlain → used = b.length) := by
  have htype := decode_of_holdsAt (holdsAt_type hb)
  cases d with
  | text s =>
      obtain rfl := Option.some.inj hb
      refine ⟨8 + min ((Text.beforeNul (Text.asciiForm s)).utf8ByteSize + 1)
        ((Text.utf8 s).length + 1), ?_, ?_⟩
      · rw [htype, type, decodeType_text, PlainText.decode_encode]
        rfl
      -- what stands behind the first NUL is not counted as used
      · intro hplain
        have hself : Text.beforeNul (Text.asciiForm s) = s := by
          rw [Text.asciiForm_eq_self hplain.1, Text.beforeNul_eq_self hplain.2]
        rw [hself, Text.utf8ByteSize_eq, Nat.min_self, PlainText.encode, List.length_append,
          List.length_append, length_blockHead, Text.length_toAscii, List.length_singleton,
          Nat.add_assoc]
  | description s =>
      obtain rfl := Option.some.inj hb
      refine ⟨_, ?_, fun _ => rfl⟩
      rw [htype, type, decodeType_description, DescriptionText.decode_encode hlength]
      rfl
  | localized t =>
      obtain rfl := Option.some.inj hb
      refine ⟨_, ?_, fun _ => rfl⟩
      rw [htype, type, decodeType_localized, LocalizedText.decode_encode hfits hlength]
      rfl
  | dictionary d =>
      obtain rfl := Option.some.inj hb
      refine ⟨_, ?_, fun _ => rfl⟩
      rw [htype, type, decodeType_dictionary, Dictionary.decode_encode hlength]
      rfl
  | xyz values =>
      obtain rfl := Option.some.inj hb
      refine ⟨_, ?_, fun _ => rfl⟩
      rw [htype, type, decodeType_xyz, Xyz.decodeAll_encodeAll hfits]
      rfl
  | fixed values =>
      obtain rfl := Option.some.inj hb
      refine ⟨_, ?_, fun _ => rfl⟩
      rw [htype, type, decodeType_fixed, Fixed.decodeAll_encodeAll]
      rfl
  | signature code =>
      obtain rfl := Option.some.inj hb
      refine ⟨12, ?_, ?_⟩
      · rw [htype, type, decodeType_signature, decodeSignature_written]
        rfl
      · intro _
        rw [List.length_append, length_blockHead, Bytes.length_ofWord32]
  | sequence ps =>
      obtain rfl := Option.some.inj hb
      refine ⟨_, ?_, fun _ => rfl⟩
      rw [htype, type, decodeType_sequence, ProfileSequence.decode_encode hfits hlength]
      rfl
  | other type => exact absurd hb (Option.some_ne_none b).symm

/-- Decoding undoes encoding: the written form of data that fits its fields decodes to the image
of the data in storage, and that of plain data to the data itself, with the whole block used. -/
theorem decode_encoded (d : TagData) (b : Bytes) (hb : d.encode? = some b)
    (hlength : b.length < UInt32.size) (hfits : d.Fits) :
    (∃ used, decode b = .ok (d.stored, used)) ∧ (d.IsPlain → decode b = .ok (d, b.length)) := by
  obtain ⟨used, hdecode, hused⟩ := decode_written hb hlength hfits
  refine ⟨⟨used, hdecode⟩, ?_⟩
  intro hplain
  rw [hdecode, stored_eq_self hplain, hused hplain]

/-- A device link of two profiles: one with a text above the basic plane and an empty one, the
other without a text. -/
def linkedPair : ProfileSequence :=
  ⟨[⟨.zero, ⟨[⟨"en", "US", "a😀"⟩, ⟨"de", "", ""⟩]⟩⟩, ⟨.zero, ⟨[]⟩⟩]⟩

theorem decode_encoded_linkedPair :
    linkedPair.encode.length < UInt32.size ∧ (TagData.sequence linkedPair).Fits ∧
      (TagData.sequence linkedPair).IsPlain ∧
      decode linkedPair.encode = .ok (.sequence linkedPair, linkedPair.encode.length) := by
  have hlength : linkedPair.encode.length < UInt32.size := by decide +kernel
  have hcodes : linkedPair.HasCodes := by decide +kernel
  have hplain : linkedPair.NulFree := by decide +kernel
  exact ⟨hlength, hcodes, hplain,
    (decode_encoded (.sequence linkedPair) linkedPair.encode rfl hlength hcodes).2 hplain⟩

end TagData

end IccProfile
