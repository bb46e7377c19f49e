import IccProfile.Device.RankMap
import IccProfile.Proofs.Keyed

/-!
# Looking up points

The entry that was added last for a key is the one that is found (`get?_append`, `get?_ofEntries`).
A map that counts keys has one point for each of them, however often it is named
(`get?_counting`). Entries of different keys make the map that lists them
(`ofEntries_entries`), and their order does not matter to what is found (`get?_perm`).
-/

set_option autoImplicit false

namespace IccProfile.RankMap

theorem setEntry_eq (entry : RankEntry) (entries : List RankEntry) :
    setEntry entry entries = putItem (·.key) entry entries := by
  induction entries with
  | nil => rfl
  | cons first rest ih => rw [setEntry, putItem, ih]

theorem find?_setEntry (entry : RankEntry) (entries : List RankEntry) (key : String) :
    (setEntry entry entries).find? (·.key = key) =
      if entry.key = key then some entry else entries.find? (·.key = key) := by
  rw [setEntry_eq]
  exact find?_putItem (·.key) entry entries key

/-- An entry that was added is found under its key, and all others as before. -/
theorem get?_append (m : RankMap) (entry : RankEntry) (key : String) :
    (m.append entry).get? key = if entry.key = key then some entry else m.get? key :=
  find?_setEntry entry m.entries key

/-- Keys that are counted have one point each, in place of what a map had for them. -/
theorem get?_foldl_append (keys : List String) (m : RankMap) (key : String) :
    ((keys.map fun key => (⟨key, 1, 0, 0⟩ : RankEntry)).foldl append m).get? key =
      if key ∈ keys then some ⟨key, 1, 0, 0⟩ else m.get? key := by
  induction keys generalizing m with
  | nil => rw [List.map_nil, List.foldl_nil, if_neg List.not_mem_nil]
  | cons first rest ih =>
      rw [List.map_cons, List.foldl_cons, ih, get?_append]
      by_cases hrest : key ∈ rest
      · rw [if_pos hrest, if_pos (List.mem_cons_of_mem first hrest)]
      · rw [if_neg hrest]
        by_cases hfirst : first = key
        · rw [if_pos hfirst, if_pos (List.mem_cons.mpr (.inl hfirst.symm)), hfirst]
        · have hnone : key ∉ first :: rest := by
            rw [List.mem_cons, not_or]
            exact ⟨fun h => hfirst h.symm, hrest⟩
          rw [if_neg hfirst, if_neg hnone]

/-- A map that counts keys gives one point for each of them and knows no other. -/
theorem get?_counting (keys : List String) (key : String) :
    (counting keys).get? key = if key ∈ keys then some ⟨key, 1, 0, 0⟩ else none :=
  get?_foldl_append keys empty key

/-! ## Entries added one after the other -/

theorem entries_foldl_append (entries : List RankEntry) (m : RankMap) :
    (entries.foldl append m).entries =
      entries.foldl (fun found e => putItem (·.key) e found) m.entries := by
  induction entries generalizing m with
  | nil => rfl
  | cons first rest ih => rw [List.foldl_cons, ih, append, setEntry_eq, List.foldl_cons]

theorem entries_ofEntries (entries : List RankEntry) :
    (ofEntries entries).entries = entries.foldl (fun found e => putItem (·.key) e found) [] :=
  entries_foldl_append entries empty

/-- No key is there twice. -/
def Distinct (m : RankMap) : Prop := (m.entries.map (·.key)).Nodup

theorem distinct_ofEntries (entries : List RankEntry) : (ofEntries entries).Distinct := by
  rw [Distinct, entries_ofEntries]
  exact nodup_foldl_putItem RankEntry.key entries List.nodup_nil

/-- What is found is what was added last. -/
theorem get?_ofEntries (entries : List RankEntry) (key : String) :
    (ofEntries entries).get? key = entries.reverse.find? (·.key = key) := by
  rw [get?, entries_ofEntries, find?_foldl_putItem, List.find?_nil, Option.or_none]

/-- Entries of different keys make the map that lists them. -/
theorem ofEntries_entries {m : RankMap} (h : m.Distinct) : ofEntries m.entries = m := by
  have hentries : (ofEntries m.entries).entries = m.entries := by
    rw [entries_ofEntries]
    exact foldl_putItem RankEntry.key h
  exact congrArg RankMap.mk hentries

/-! ## Maps without a key twice -/

variable {m : RankMap}

/-- What is found for a key is the entry of this key. -/
theorem get?_eq_some_iff (h : m.Distinct) {key : String} {entry : RankEntry} :
    m.get? key = some entry ↔ entry ∈ m.entries ∧ entry.key = key := by
  constructor
  · intro hget
    exact ⟨List.mem_of_find?_eq_some hget, by simpa using List.find?_some hget⟩
  · rintro ⟨hmem, hkey⟩
    cases hget : m.get? key with
    | none => exact absurd hkey (by simpa using List.find?_eq_none.mp hget entry hmem)
    | some found =>
        have hfound : found.key = key := by simpa using List.find?_some hget
        have hsame := List.inj_on_of_nodup_map h (List.mem_of_find?_eq_some hget) hmem
          (hfound.trans hkey.symm)
        rw [hsame]

/-- The order of the entries does not matter to what is found. -/
theorem get?_perm (h : m.Distinct) {entries : List RankEntry} (hperm : entries.Perm m.entries)
    (key : String) : get? ⟨entries⟩ key = m.get? key := by
  have hdistinct : Distinct ⟨entries⟩ := (hperm.map _).nodup_iff.mpr h
  apply Option.ext
  intro entry
  rw [get?_eq_some_iff hdistinct, get?_eq_some_iff h, hperm.mem_iff]

end IccProfile.RankMap
