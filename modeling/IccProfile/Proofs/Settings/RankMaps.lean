import IccProfile.Proofs.Device.RankMap
import IccProfile.Proofs.Json.RoundTrip
import IccProfile.Proofs.Settings.Entries

/-!
# Rank maps that are kept

`Built m added` says that a rank map comes from adding entries one after the other, from
counting keys or from a document; `added` are the entries in the order in which they were added.
No key of such a map is there twice, and what is found for a key was added last for it. The map
reads back from its document, in either layout of the text, and from the settings
(`rankMap_kept`).
-/

set_option autoImplicit false

namespace IccProfile.RankMap

variable {m : RankMap}

/-! ## Documents -/

theorem points?_toInt (n : Int32) : points? (.int n.toInt) = some n := by
  have hlow := Int32.le_toInt n
  have hhigh := Int32.toInt_lt n
  rw [points?, Number.int32OfInt?, if_pos (by omega), Int32.ofInt_toInt]

theorem entryOf?_entryMember (e : RankEntry) : entryOf? e.key (entryMember e).2 = some e := by
  simp [entryOf?, entryMember, points?_toInt]

theorem entriesOf_members (entries : List RankEntry) :
    entriesOf (entries.map entryMember) = .ok entries := by
  induction entries with
  | nil => rfl
  | cons e entries ih =>
      have he : entryOf? (entryMember e).1 (entryMember e).2 = some e := entryOf?_entryMember e
      rw [entriesOf] at ih
      rw [entriesOf, List.map_cons, List.mapM_cons, ih]
      simp only [he]
      rfl

/-- The object of the entries. -/
theorem toJson_eq (h : m.Distinct) (className : String) :
    m.toJson className =
      .wrap path (.object [(className, .array [.object (m.entries.map entryMember)])]) := by
  have hnames : ((m.entries.map entryMember).map (·.1)).Nodup := by
    rw [List.map_map]
    exact h
  rw [toJson, Json.collect_eq_self hnames]

theorem plain_entryMember (e : RankEntry) (depth : Nat) :
    Json.Plain (depth + 1) (entryMember e).2 := by
  have hfits : ∀ n : Int32, Json.FitsWord n.toInt := by
    intro n
    have hlow := Int32.le_toInt n
    have hhigh := Int32.toInt_lt n
    rw [Json.FitsWord]
    omega
  refine .array ?_
  simp only [List.forall_mem_cons]
  exact ⟨.int (hfits e.onMatch), .int (hfits e.onMismatch), .int (hfits e.onMissing),
    List.forall_mem_nil _⟩

theorem plain_toJson (h : m.Distinct) (className : String) :
    Json.Plain Json.maxDepth (m.toJson className) := by
  have hentries : Json.Plain 121 (.object (m.entries.map entryMember)) := by
    refine .object ?_ ?_
    · intro member hmember
      obtain ⟨e, -, rfl⟩ := List.mem_map.mp hmember
      exact plain_entryMember e 119
    · rw [List.map_map]
      exact h
  have hclasses : Json.Plain 123
      (.object [(className, .array [.object (m.entries.map entryMember)])]) := by
    refine .object ?_ (List.nodup_singleton className)
    intro member hmember
    obtain rfl := List.mem_singleton.mp hmember
    refine .array ?_
    intro item hitem
    obtain rfl := List.mem_singleton.mp hitem
    exact hentries
  rw [toJson_eq h]
  exact hclasses.wrap path

/-- A map without a key twice reads back from its document. -/
theorem ofJson_toJson (h : m.Distinct) (className : String) :
    ofJson (m.toJson className) 0 = .ok m := by
  rw [toJson_eq h, ofJson, Json.getPath?_wrap]
  simp [Json.members?, Json.items?, entriesOf_members, ofEntries_entries h]

/-- The text has no space, or one item per line. -/
theorem ofText_toJson (h : m.Distinct) (className : String) :
    ofText (m.toJson className).compact 0 = .ok m ∧
      ofText (m.toJson className).pretty 0 = .ok m := by
  have hplain := plain_toJson h className
  rw [ofText, ofText, Json.ofText?_compact hplain, Json.ofText?_pretty hplain]
  exact ⟨ofJson_toJson h className, ofJson_toJson h className⟩

/-! ## How a map comes about -/

/-- The entries that a document lists at a position of its first class. -/
def listedAt (root : Json) (position : Nat) : Except Error (List RankEntry) := do
  let some classes := (root.getPath? path).bind Json.members?
    | .error (.rankMap .missingRoot)
  let (className, list) :: _ := classes
    | .error (.rankMap .noClass)
  let some members := (list.items?.bind (·[position]?)).bind Json.members?
    | .error (.rankMap (.noEntry className position))
  entriesOf members

/-- The entries that a text lists. -/
def listed (text : String) (position : Nat) : Except Error (List RankEntry) :=
  match Json.ofText? text with
  | some root => listedAt root position
  | none => .error .json

theorem ofJson_eq (root : Json) (position : Nat) :
    ofJson root position = (listedAt root position).map ofEntries := by
  simp only [ofJson, listedAt]
  cases hclasses : (root.getPath? path).bind Json.members? with
  | none => rfl
  | some classes =>
      cases classes with
      | nil => rfl
      | cons first rest =>
          obtain ⟨className, list⟩ := first
          simp only
          cases hmembers : (list.items?.bind (·[position]?)).bind Json.members? with
          | none => rfl
          | some members =>
              simp only
              cases entriesOf members <;> rfl

/-- The map of a text is made of the entries that the text lists. -/
theorem ofText_eq (text : String) (position : Nat) :
    ofText text position = (listed text position).map ofEntries := by
  rw [ofText, listed]
  cases Json.ofText? text with
  | none => rfl
  | some root => exact ofJson_eq root position

/-- A rank map with the entries that were added to it, in the order in which they were added. -/
inductive Built : RankMap → List RankEntry → Prop
  | empty : Built empty []
  | counting (keys : List String) : Built (counting keys) (keys.map fun key => ⟨key, 1, 0, 0⟩)
  | read {text position m entries} (h : ofText text position = .ok m)
      (hlisted : listed text position = .ok entries) : Built m entries
  | append {m added} (h : Built m added) (entry : RankEntry) :
      Built (m.append entry) (added ++ [entry])

/-- A map is made of the entries that were added to it. -/
theorem Built.eq_ofEntries {added : List RankEntry} (h : Built m added) : m = ofEntries added := by
  induction h with
  | empty => rfl
  | counting keys => rfl
  | read h hlisted =>
      rw [ofText_eq, hlisted] at h
      exact (Except.ok.inj h).symm
  | append _ entry ih =>
      rw [ofEntries, List.foldl_append, ← ofEntries, ← ih]
      rfl

end IccProfile.RankMap

namespace IccProfile.Settings

/-- A rank map that was stored for a device is found for it. -/
theorem storedRankMap_storeRankMap (s : Settings) (device : Device) {m : RankMap}
    (h : m.Distinct) : (s.storeRankMap device m).storedRankMap device = .ok (some m) := by
  have hget : (s.storeRankMap device m).get? (rankMapPath device) =
      some (m.toJson device.className).compact := by
    rw [storeRankMap, get?_set, if_pos rfl]
  simp only [storedRankMap, hget, (RankMap.ofText_toJson h device.className).1]
  rfl

/-- A rank map has no key twice, finds what was added last for a key, and reads back from its
document and from the settings. -/
theorem rankMap_kept {m : RankMap} {added : List RankEntry} (h : RankMap.Built m added)
    (className : String) (device : Device) (s : Settings) :
    (m.entries.map (·.key)).Nodup ∧
    (∀ key, m.get? key = added.reverse.find? (·.key = key)) ∧
    RankMap.ofText (m.toJson className).compact 0 = .ok m ∧
    RankMap.ofText (m.toJson className).pretty 0 = .ok m ∧
    (s.storeRankMap device m).storedRankMap device = .ok (some m) := by
  obtain rfl := h.eq_ofEntries
  have hdistinct := RankMap.distinct_ofEntries added
  obtain ⟨hcompact, hpretty⟩ := RankMap.ofText_toJson hdistinct className
  exact ⟨hdistinct, RankMap.get?_ofEntries added, hcompact, hpretty,
    storedRankMap_storeRankMap s device hdistinct⟩

/-- A document of a rank map with points in a string and an escaped name. -/
def revisedText : String :=
  "\x7b\"org\":\x7b\"freedesktop\":\x7b\"openicc\":\x7b\"rank_map\":\x7b\"m\":[\x7b" ++
    "\"k\":[\" 5\",-2,0],\"\\u00e9\\\"\":[1,2,3]\x7d]\x7d\x7d\x7d\x7d\x7d"

/-- The map of the document, with other points for one of its names. -/
def revised : RankMap := ⟨[⟨"k", 7, 0, -1⟩, ⟨"é\"", 1, 2, 3⟩]⟩

theorem built_revised :
    RankMap.Built revised [⟨"k", 5, -2, 0⟩, ⟨"é\"", 1, 2, 3⟩, ⟨"k", 7, 0, -1⟩] := by
  have htext : RankMap.ofText revisedText 0 =
      .ok ⟨[⟨"k", 5, -2, 0⟩, ⟨"é\"", 1, 2, 3⟩]⟩ := by decide +kernel
  have hlisted : RankMap.listed revisedText 0 =
      .ok [⟨"k", 5, -2, 0⟩, ⟨"é\"", 1, 2, 3⟩] := by decide +kernel
  exact (RankMap.Built.read htext hlisted).append ⟨"k", 7, 0, -1⟩

theorem rankMap_kept_revised :
    (revised.entries.map (·.key)).Nodup ∧
    (∀ key, revised.get? key =
      [⟨"k", 5, -2, 0⟩, ⟨"é\"", 1, 2, 3⟩, ⟨"k", 7, 0, -1⟩].reverse.find? (·.key = key)) ∧
    RankMap.ofText (revised.toJson "m\n").compact 0 = .ok revised ∧
    RankMap.ofText (revised.toJson "m\n").pretty 0 = .ok revised ∧
    (empty.storeRankMap ⟨"m", "0", .empty, none⟩ revised).storedRankMap
      ⟨"m", "0", .empty, none⟩ = .ok (some revised) :=
  rankMap_kept built_revised "m\n" ⟨"m", "0", .empty, none⟩ empty

end IccProfile.Settings
