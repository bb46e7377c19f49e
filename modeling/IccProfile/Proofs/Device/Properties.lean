import IccProfile.Device.Properties
import IccProfile.Proofs.Keyed

/-!
# Setting a property

A property that was set is found under its key (`get?_set`, `lookup_set_self`). The
other names find what they found before: by their exact key, and also under a longer
name, when the key that was set does not end in a slash and the name (`lookup_set`).

Whether properties are marked as made without measuring depends on what the flags are
found as (`isAutoGenerated_congr`).
-/

set_option autoImplicit false

namespace IccProfile.Properties

variable {p q : Properties} {key name value : String}

/-! ## Names behind a slash -/

/-- A name ends in a key when it is that key behind a slash and anything in front of it. -/
theorem endsInKey_iff : endsInKey key name = true ↔ ∃ head, name = head ++ "/" ++ key := by
  rw [endsInKey, List.isPrefixOf_iff_prefix, List.reverse_prefix]
  constructor
  · rintro ⟨head, hname⟩
    refine ⟨String.ofList head, ?_⟩
    apply String.toList_inj.mp
    simp [← hname]
  · rintro ⟨head, rfl⟩
    exact ⟨head.toList, by simp⟩

/-! ## Flags -/

/-- Properties that have the same flags are marked alike. -/
theorem isAutoGenerated_congr (h : ∀ flag ∈ autoGeneratedKeys, p.get? flag = q.get? flag) :
    p.isAutoGenerated = q.isAutoGenerated := by
  rw [isAutoGenerated, isAutoGenerated, List.any_eq, List.any_eq]
  apply decide_eq_decide.mpr
  constructor
  · rintro ⟨flag, hflag, hset⟩
    exact ⟨flag, hflag, by rwa [h flag hflag] at hset⟩
  · rintro ⟨flag, hflag, hset⟩
    exact ⟨flag, hflag, by rwa [h flag hflag]⟩

/-! ## Setting -/

theorem setEntry_eq (key value : String) (entries : List (String × String)) :
    setEntry key value entries = putItem Prod.fst (key, value) entries := by
  induction entries with
  | nil => rfl
  | cons first rest ih => rw [setEntry, putItem, ih]

/-- A property that was set is found under its key, and all others as before. -/
theorem get?_set (p : Properties) (key value name : String) :
    (p.set key value).get? name = if key = name then some value else p.get? name := by
  rw [get?, set, setEntry_eq, find?_putItem, get?]
  split <;> rfl

theorem get?_set_of_ne (h : key ≠ name) (p : Properties) (value : String) :
    (p.set key value).get? name = p.get? name := by
  rw [get?_set, if_neg h]

/-- A value that is found under the exact key is the one that is looked up. -/
theorem lookup_of_get? (h : p.get? key = some value) : p.lookup key = some value := by
  rw [lookup, h, Option.some_or]

theorem lookup_set_self (p : Properties) (key value : String) :
    (p.set key value).lookup key = some value :=
  lookup_of_get? (by rw [get?_set, if_pos rfl])

/-- Setting a property leaves what is looked up under a name that its key does not end in. -/
theorem lookup_set (hne : key ≠ name) (hend : ∀ head, key ≠ head ++ "/" ++ name)
    (p : Properties) (value : String) : (p.set key value).lookup name = p.lookup name := by
  have hsuffix : endsInKey name (key, value).1 = false := by
    rw [Bool.eq_false_iff, ne_eq, endsInKey_iff]
    rintro ⟨head, hkey⟩
    exact hend head hkey
  rw [lookup, get?_set_of_ne hne, set, setEntry_eq,
    find?_putItem_of_not Prod.fst hsuffix p.entries, lookup]

/-- A property that is no flag leaves the mark. -/
theorem isAutoGenerated_set (h : key ∉ autoGeneratedKeys) (p : Properties) (value : String) :
    (p.set key value).isAutoGenerated = p.isAutoGenerated := by
  apply isAutoGenerated_congr
  intro flag hflag
  apply get?_set_of_ne
  rintro rfl
  exact h hflag

theorem contains_set_of_ne (h : key ≠ name) (p : Properties) (value : String) :
    (p.set key value).contains name = p.contains name := by
  rw [contains, get?_set_of_ne h, contains]

end IccProfile.Properties
