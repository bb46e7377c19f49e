import Mathlib.Data.List.Induction
import Mathlib.Data.List.Nodup

/-!
# Items by key

`putItem key item items` replaces the first item of the same key, or adds the item at the end.
No key is there twice afterwards when none was before (`nodup_putItem`), and what is found is
what was put last (`find?_putItem`, `find?_foldl_putItem`). Items of different keys that are put
one after the other stand in their order (`foldl_putItem`).
-/

set_option autoImplicit false

namespace IccProfile

variable {α β : Type} [DecidableEq β] (key : α → β)

/-- Replaces the first item of the same key, or adds the item at the end. -/
def putItem (item : α) : List α → List α
  | [] => [item]
  | x :: rest => if key x = key item then item :: rest else x :: putItem item rest

theorem find?_putItem (item : α) (items : List α) (k : β) :
    (putItem key item items).find? (key · = k) =
      if key item = k then some item else items.find? (key · = k) := by
  induction items with
  | nil =>
      rw [putItem, List.find?_singleton, List.find?_nil]
      simp only [decide_eq_true_eq]
  | cons first rest ih =>
      rw [putItem]
      by_cases hplace : key first = key item
      -- the item stands in the place of the first one
      · rw [if_pos hplace, List.find?_cons, List.find?_cons, hplace]
        by_cases hkey : key item = k
        · rw [if_pos hkey, decide_eq_true hkey]
        · rw [if_neg hkey, decide_eq_false hkey]
      · rw [if_neg hplace, List.find?_cons, List.find?_cons, ih]
        by_cases hfirst : key first = k
        · have hother : key item ≠ k := fun h => hplace (hfirst.trans h.symm)
          rw [decide_eq_true hfirst, if_neg hother, if_neg hother]
        · rw [decide_eq_false hfirst]

/-- A search that goes past the key of the item finds what it found before. -/
theorem find?_putItem_of_not {q : β → Bool} {item : α} (h : q (key item) = false)
    (items : List α) :
    (putItem key item items).find? (fun x => q (key x)) = items.find? fun x => q (key x) := by
  induction items with
  | nil =>
      rw [putItem, List.find?_cons, h]
  | cons first rest ih =>
      rw [putItem]
      by_cases hplace : key first = key item
      -- the first item had the same key, so the search went past it as well
      · rw [if_pos hplace, List.find?_cons, List.find?_cons, hplace, h]
      · rw [if_neg hplace, List.find?_cons, List.find?_cons, ih]

theorem map_putItem (item : α) (items : List α) :
    (putItem key item items).map key =
      if key item ∈ items.map key then items.map key else items.map key ++ [key item] := by
  induction items with
  | nil => simp [putItem]
  | cons first rest ih =>
      rw [putItem]
      by_cases hplace : key first = key item
      · simp [hplace]
      · have hne : ¬ key item = key first := fun h => hplace h.symm
        rw [if_neg hplace, List.map_cons, ih]
        by_cases hrest : key item ∈ rest.map key
        · rw [if_pos hrest, List.map_cons, if_pos (List.mem_cons_of_mem _ hrest)]
        · rw [if_neg hrest, List.map_cons, if_neg (List.not_mem_cons_of_ne_of_not_mem hne hrest),
            List.cons_append]

/-- No key is there twice after an item was put. -/
theorem nodup_putItem (item : α) {items : List α} (h : (items.map key).Nodup) :
    ((putItem key item items).map key).Nodup := by
  rw [map_putItem]
  split
  · exact h
  · next hnew =>
      rw [← List.concat_eq_append]
      exact h.concat hnew

theorem putItem_of_not_mem {item : α} {items : List α} (h : key item ∉ items.map key) :
    putItem key item items = items ++ [item] := by
  induction items with
  | nil => rfl
  | cons first rest ih =>
      rw [List.map_cons, List.mem_cons, not_or] at h
      rw [putItem, if_neg fun heq => h.1 heq.symm, ih h.2, List.cons_append]

/-- Items of different keys stand in their order. -/
theorem foldl_putItem {items : List α} (h : (items.map key).Nodup) :
    items.foldl (fun found x => putItem key x found) [] = items := by
  induction items using List.reverseRecOn with
  | nil => rfl
  | append_singleton items item ih =>
      rw [List.map_append, List.nodup_append] at h
      have hnew : key item ∉ items.map key := by
        intro hmem
        exact h.2.2 _ hmem _ (List.mem_singleton_self _) rfl
      rw [List.foldl_append, ih h.1]
      exact putItem_of_not_mem key hnew

/-- What is found is what was put last. -/
theorem find?_foldl_putItem (items start : List α) (k : β) :
    (items.foldl (fun found x => putItem key x found) start).find? (key · = k) =
      (items.reverse.find? (key · = k)).or (start.find? (key · = k)) := by
  induction items using List.reverseRecOn with
  | nil => simp
  | append_singleton items item ih =>
      rw [List.foldl_append, List.foldl_cons, List.foldl_nil, find?_putItem, ih,
        List.reverse_append, List.reverse_singleton, List.singleton_append, List.find?_cons]
      by_cases hkey : key item = k
      · rw [if_pos hkey, decide_eq_true hkey, Option.some_or]
      · rw [if_neg hkey, decide_eq_false hkey]

/-- No key is there twice when items are put one after the other. -/
theorem nodup_foldl_putItem (items : List α) {start : List α} (h : (start.map key).Nodup) :
    ((items.foldl (fun found x => putItem key x found) start).map key).Nodup := by
  induction items generalizing start with
  | nil => exact h
  | cons item items ih => exact ih (nodup_putItem key item h)

theorem mem_putItem {x item : α} {items : List α} (h : x ∈ putItem key item items) :
    x = item ∨ x ∈ items := by
  induction items with
  | nil => exact .inl (List.mem_singleton.mp h)
  | cons first rest ih =>
      rw [putItem] at h
      split at h
      · rcases List.mem_cons.mp h with rfl | hrest
        · exact .inl rfl
        · exact .inr (List.mem_cons_of_mem first hrest)
      · rcases List.mem_cons.mp h with rfl | hput
        · exact .inr List.mem_cons_self
        · exact (ih hput).imp_right (List.mem_cons_of_mem first)

/-- What is there after items were put one after the other is one of them. -/
theorem mem_foldl_putItem {x : α} {items start : List α}
    (h : x ∈ items.foldl (fun found x => putItem key x found) start) : x ∈ items ∨ x ∈ start := by
  induction items generalizing start with
  | nil => exact .inr h
  | cons item items ih =>
      rcases ih h with hitems | hput
      · exact .inl (List.mem_cons_of_mem item hitems)
      · rcases mem_putItem key hput with rfl | hstart
        · exact .inl List.mem_cons_self
        · exact .inr hstart

/-! ## Pairs -/

/-- A value is found as what it was made into. -/
theorem lookup_map {β γ δ : Type} [BEq β] (f : γ → δ) (k : β) (pairs : List (β × γ)) :
    (pairs.map fun e => (e.1, f e.2)).lookup k = (pairs.lookup k).map f := by
  induction pairs with
  | nil => rfl
  | cons first rest ih =>
      rw [List.map_cons, List.lookup_cons, List.lookup_cons, ih]
      split <;> rfl

variable [BEq β] [LawfulBEq β]

theorem lookup_eq {γ : Type} (k : β) (pairs : List (β × γ)) :
    pairs.lookup k = (pairs.find? (·.1 = k)).map (·.2) := by
  induction pairs with
  | nil => rfl
  | cons first rest ih =>
      rw [List.lookup_cons, List.find?_cons]
      by_cases hfirst : first.1 = k
      · rw [beq_iff_eq.mpr hfirst.symm, decide_eq_true hfirst]
        rfl
      · rw [beq_eq_false_iff_ne.mpr (Ne.symm hfirst), decide_eq_false hfirst, ih]

theorem lookup_putItem {γ : Type} (k other : β) (value : γ) (pairs : List (β × γ)) :
    (putItem Prod.fst (k, value) pairs).lookup other =
      if k = other then some value else pairs.lookup other := by
  rw [lookup_eq, find?_putItem, lookup_eq]
  split <;> rfl

end IccProfile
