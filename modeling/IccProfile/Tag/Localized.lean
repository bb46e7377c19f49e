import IccProfile.Tag.Text
import IccProfile.Text.Utf16

/-!
# Localized text tags

The type `mluc` holds strings with a language and a country: a count, a record
size, the records, and the strings that the records point to. Reading is best
effort: it stops at the first record that is not wholly inside the block and skips
a record whose string is outside the block or is not UTF-16.

Two selections choose among the strings for a locale: `select` gives all entries
that fit, `best` the text of one.
-/

set_option autoImplicit false

namespace IccProfile

/-- A string with its language and country. -/
structure LocalizedString where
  /-- The ISO 639-1 code of the language. -/
  language : String
  /-- The ISO 3166-1 code of the country. -/
  country : String
  text : String
deriving DecidableEq, Inhabited

namespace LocalizedString

/-- The language, and the country when there is one. -/
def locale (s : LocalizedString) : String :=
  if s.country = "" then s.language else s.language ++ "_" ++ s.country

/-- The text behind its locale, alone when it has no language. -/
def labeled (s : LocalizedString) : String :=
  if s.language = "" then s.text else s.locale ++ ":" ++ s.text

end LocalizedString

/-- Strings in several languages. -/
structure LocalizedText where
  entries : List LocalizedString
deriving DecidableEq, Inhabited

namespace LocalizedText

/-- A single string in American English. -/
def english (text : String) : LocalizedText := ⟨[⟨"en", "US", text⟩]⟩

/-! ## Reading -/

/-- The bytes of a record: language, country, string length, string offset. -/
def recordSize : Nat := 12

/-- The offset of the string of a record. -/
def stringOffset (record : Bytes) : Nat := (Bytes.wordAt record 8).toNat

/-- The length of the string of a record. -/
def stringLength (record : Bytes) : Nat := (Bytes.wordAt record 4).toNat

/-- The stored string of a record, when it is inside the block. -/
def stringBytes? (block record : Bytes) : Option Bytes :=
  Bytes.slice? block (stringOffset record) (stringLength record)

/-- The entry of a record, none when its string cannot be read. -/
def entryOf? (block record : Bytes) : Option LocalizedString := do
  let stored ← stringBytes? block record
  let text ← Text.ofUtf16? stored
  return ⟨Text.ofBytes (record.take 2), Text.ofBytes ((record.drop 2).take 2), text⟩

/-- The end of a record, or that of its string when that is inside the block and behind. -/
def recordEnd (block : Bytes) (offset : Nat) (record : Bytes) : Nat :=
  match stringBytes? block record with
  | none => offset + recordSize
  | some _ => max (offset + recordSize) (stringOffset record + stringLength record)

/-- The offset of a record. -/
def place (size i : Nat) : Nat := 16 + i * size

/-- What the loop over the records has when it comes to one of them. -/
structure Walk where
  index : Nat
  entries : List LocalizedString
  /-- The number of bytes that were used so far. -/
  used : Nat

namespace Walk

/-- The loop before the first record. -/
def start : Walk := ⟨0, [], 16⟩

/-- The loop behind a record. A record whose string cannot be read gives no entry. -/
def after (block : Bytes) (size : Nat) (w : Walk) (record : Bytes) : Walk :=
  ⟨w.index + 1, w.entries ++ (entryOf? block record).toList,
    max w.used (recordEnd block (place size w.index) record)⟩

/-- The loop over the records that are left, and the number of its iterations with the one that
leaves it at a record outside the block. -/
def run (block : Bytes) (size : Nat) : Nat → Walk → Walk × Nat
  | 0, w => (w, 0)
  | left + 1, w =>
    match Bytes.slice? block (place size w.index) recordSize with
    | none => (w, 1)
    | some record =>
      let (last, iterations) := run block size left (w.after block size record)
      (last, iterations + 1)

end Walk

/-- Reads an `mluc` block. -/
def decode (block : Bytes) : Except Defect (LocalizedText × Nat) :=
  match Bytes.u32At? block 8, Bytes.u32At? block 12 with
  | some count, some size =>
    if size.toNat < recordSize then .error .localizedRecordSize
    else
      let (last, _) := Walk.start.run block size.toNat count.toNat
      .ok (⟨last.entries⟩, last.used)
  | _, _ => .error .localizedTooSmall

/-! ## Writing -/

/-- The records for entries whose strings are stored one after the other from an offset on. -/
def encodeRecords (offset : Nat) : List LocalizedString → Bytes
  | [] => []
  | entry :: rest =>
    let length := (Text.toUtf16 entry.text).length
    Text.code2 entry.language ++ Text.code2 entry.country ++ Bytes.ofSize length
      ++ Bytes.ofSize offset ++ encodeRecords (offset + length) rest

/-- Writes an `mluc` block; the strings follow the records without padding. -/
def encode (t : LocalizedText) : Bytes :=
  blockHead Signature.typeLocalized ++ Bytes.ofSize t.entries.length ++ Bytes.ofSize recordSize
    ++ encodeRecords (16 + t.entries.length * recordSize) t.entries
    ++ t.entries.flatMap fun entry => Text.toUtf16 entry.text

/-! ## Choosing a locale -/

/-- Whether an entry has each code that is asked for. -/
def fits (language? country? : Option String) (entry : LocalizedString) : Bool :=
  language?.all (entry.language = ·) && country?.all (entry.country = ·)

/-- The first entry in English, else the first of all. -/
def fallback? (t : LocalizedText) : Option LocalizedString :=
  (t.entries.find? (·.language = "en")).or t.entries.head?

/-- The labeled texts for a locale: all entries that fit, else the fallback. When neither a
language nor a country is asked for, every entry fits. -/
def select (t : LocalizedText) (language? country? : Option String) : List String :=
  match t.entries.filter (fits language? country?) with
  | [] => t.fallback?.toList.map LocalizedString.labeled
  | found => found.map LocalizedString.labeled

/-- The entry that fits a locale best: with language and country, with the language, with the
country, else the fallback. -/
def bestEntry? (t : LocalizedText) (language country : String) : Option LocalizedString :=
  (t.entries.find? fun e => e.language = language && e.country = country)
    |>.or (t.entries.find? (·.language = language))
    |>.or (t.entries.find? fun e => country ≠ "" && e.country = country)
    |>.or t.fallback?

/-- The text that fits a locale best. -/
def best (t : LocalizedText) (language country : String) : Option String :=
  (t.bestEntry? language country).map (·.text)

end LocalizedText

end IccProfile
