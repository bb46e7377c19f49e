import Mathlib.Data.List.Induction
import Mathlib.Data.List.Sort

/-!
# First occurrences and stable sorting

`firstOfEach key items` keeps of each key the first item. What is found by a key is what is
found among all items (`find?_firstOfEach`), no key is left twice (`pairwise_firstOfEach`),
and what is left stands in its order (`firstOfEach_sublist`).

A stable sort leaves items in their order when none of them has to stand before another
(`filter_mergeSort_of_tied`), and inserting the items one after the other sorts them alike
(`mergeSort_eq_insertionSort`). Items that are sorted by a key ascend with it
(`pairwise_sortedByKey`), and those of one key stand in their order (`filter_sortedByKey`).
-/

set_option autoImplicit false

namespace IccProfile

variable {α β : Type}

/-! ## First occurrences -/

section FirstOfEach

variable [DecidableEq β] (key : α → β) (items : List α)

/-- Items without those whose key was there before. -/
def firstOfEach : List α :=
  items.foldl (fun kept x => if kept.any fun y => key y = key x then kept else kept ++ [x]) []

/-- A further item is kept unless its key is there. -/
theorem firstOfEach_append (item : α) :
    firstOfEach key (items ++ [item]) =
      if (firstOfEach key items).any fun y => key y = key item then firstOfEach key items
      else firstOfEach key items ++ [item] :=
  List.foldl_append

theorem firstOfEach_sublist : (firstOfEach key items).Sublist items := by
  induction items using List.reverseRecOn with
  | nil => exact List.Sublist.refl []
  | append_singleton items item ih =>
      rw [firstOfEach_append]
      split
      · exact ih.trans (List.sublist_append_left items [item])
      · exact ih.append_right [item]

theorem pairwise_firstOfEach : (firstOfEach key items).Pairwise fun x y => key x ≠ key y := by
  induction items using List.reverseRecOn with
  | nil => exact List.Pairwise.nil
  | append_singleton items item ih =>
      rw [firstOfEach_append]
      split
      · exact ih
      · next hnew =>
          refine List.pairwise_append.mpr ⟨ih, List.pairwise_singleton _ _, ?_⟩
          intro x hx y hy heq
          obtain rfl := List.mem_singleton.mp hy
          exact hnew (List.any_eq_true.mpr ⟨x, hx, decide_eq_true heq⟩)

/-- Items of different keys are all left. -/
theorem firstOfEach_eq_self (h : items.Pairwise fun x y => key x ≠ key y) :
    firstOfEach key items = items := by
  induction items using List.reverseRecOn with
  | nil => rfl
  | append_singleton items item ih =>
      obtain ⟨hitems, -, hnew⟩ := List.pairwise_append.mp h
      rw [firstOfEach_append, ih hitems, if_neg]
      intro hold
      obtain ⟨x, hx, hkey⟩ := List.any_eq_true.mp hold
      exact hnew x hx item List.mem_cons_self (of_decide_eq_true hkey)

/-- What is found by its key is the first item of this key. -/
theorem find?_firstOfEach (k : β) :
    (firstOfEach key items).find? (key · = k) = items.find? (key · = k) := by
  induction items using List.reverseRecOn with
  | nil => rfl
  | append_singleton items item ih =>
      rw [firstOfEach_append, List.find?_append, ← ih]
      split
      · next hold =>
          cases hfind : (firstOfEach key items).find? (key · = k) with
          | some x => rfl
          | none =>
              -- the further item has the key of one that is kept, which is another one
              rw [Option.none_or, eq_comm, List.find?_eq_none]
              obtain ⟨x, hx, hkey⟩ := List.any_eq_true.mp hold
              have hother := List.find?_eq_none.mp hfind x hx
              intro y hy hk
              obtain rfl := List.mem_singleton.mp hy
              exact hother (decide_eq_true ((of_decide_eq_true hkey).trans (of_decide_eq_true hk)))
      · exact List.find?_append

/-- What is left are the items that are the first of their key. -/
theorem mem_firstOfEach_iff {item : α} :
    item ∈ firstOfEach key items ↔ items.find? (key · = key item) = some item := by
  rw [← find?_firstOfEach]
  refine ⟨fun hitem => ?_, List.mem_of_find?_eq_some⟩
  cases hfind : (firstOfEach key items).find? (key · = key item) with
  | none => exact absurd (decide_eq_true rfl) (List.find?_eq_none.mp hfind item hitem)
  | some other =>
      have hkey := List.find?_some hfind
      -- no two of them have one key
      have hinjective : ∀ x ∈ firstOfEach key items, ∀ y ∈ firstOfEach key items,
          key x = key y → x = y :=
        List.Pairwise.forall_of_forall_of_flip (fun _ _ _ => rfl)
          ((pairwise_firstOfEach key items).imp fun hne heq => absurd heq hne)
          ((pairwise_firstOfEach key items).imp fun hne heq => absurd heq.symm hne)
      rw [hinjective other (List.mem_of_find?_eq_some hfind) item hitem (of_decide_eq_true hkey)]

end FirstOfEach

/-! ## Stable sorting -/

/-- Sorting keeps the order of items none of which has to stand before another. -/
theorem filter_mergeSort_of_tied {le : α → α → Bool} {test : α → Bool}
    (htrans : ∀ a b c, le a b = true → le b c = true → le a c = true)
    (htotal : ∀ a b, (le a b || le b a) = true)
    (htied : ∀ a b, test a = true → test b = true → le a b = true) (items : List α) :
    (items.mergeSort le).filter test = items.filter test := by
  have hpairs : (items.filter test).Pairwise fun a b => le a b = true := by
    refine List.pairwise_of_forall_mem_list ?_
    intro a ha b hb
    exact htied a b (List.mem_filter.mp ha).2 (List.mem_filter.mp hb).2
  have hkept := (List.sublist_mergeSort htrans htotal hpairs List.filter_sublist).filter test
  rw [List.filter_filter] at hkept
  simp only [Bool.and_self] at hkept
  exact (hkept.eq_of_length (((List.mergeSort_perm items le).filter test).length_eq).symm).symm

/-- An item is inserted behind those that it does not stand before. -/
theorem orderedInsert_append {r : α → α → Prop} [DecidableRel r] {item : α} {before : List α}
    (h : ∀ b ∈ before, ¬ r item b) (after : List α) :
    (before ++ after).orderedInsert r item = before ++ after.orderedInsert r item := by
  induction before with
  | nil => rfl
  | cons b before ih =>
      obtain ⟨hb, hbefore⟩ := List.forall_mem_cons.mp h
      rw [List.cons_append, List.orderedInsert, if_neg hb, ih hbefore, List.cons_append]

/-- An item is inserted before all others when it stands before each of them. -/
theorem orderedInsert_of_forall {r : α → α → Prop} [DecidableRel r] {item : α} {after : List α}
    (h : ∀ b ∈ after, r item b) : after.orderedInsert r item = item :: after := by
  cases after with
  | nil => rfl
  | cons b after => rw [List.orderedInsert, if_pos (h b List.mem_cons_self)]

/-- Sorting is inserting the items one after the other, also where several of them are tied. -/
theorem mergeSort_eq_insertionSort {le : α → α → Bool}
    (htrans : ∀ a b c, le a b = true → le b c = true → le a c = true)
    (htotal : ∀ a b, (le a b || le b a) = true) (items : List α) :
    items.mergeSort le = items.insertionSort fun a b => le a b = true := by
  induction items with
  | nil => rw [List.mergeSort_nil, List.insertionSort_nil]
  | cons item items ih =>
      obtain ⟨before, after, hall, hitems, hbefore⟩ :=
        List.mergeSort_cons htrans htotal item items
      -- the others are sorted, and the item stands between those before it and those behind it
      have hafter : ∀ b ∈ after, le item b = true := by
        have hsorted := List.pairwise_mergeSort htrans htotal (item :: items)
        rw [hall, List.pairwise_append] at hsorted
        exact (List.pairwise_cons.mp hsorted.2.1).1
      have hnot : ∀ b ∈ before, ¬ le item b = true := by
        intro b hb
        rw [Bool.not_eq_true, ← Bool.not_eq_true']
        exact hbefore b hb
      rw [List.insertionSort_cons, ← ih, hitems, orderedInsert_append hnot,
        orderedInsert_of_forall hafter, hall]

/-! ## Sorting by a key -/

section SortedByKey

variable (before : β → β → Bool) (key : α → β) (items : List α)

/-- Items with their keys, sorted by the keys. -/
def sortedByKey : List (β × α) :=
  (items.map fun item => (key item, item)).mergeSort fun a b => before a.1 b.1

theorem perm_sortedByKey :
    (sortedByKey before key items).Perm (items.map fun item => (key item, item)) :=
  List.mergeSort_perm ..

/-- Without their keys they are the items. -/
theorem perm_map_snd_sortedByKey : ((sortedByKey before key items).map (·.2)).Perm items := by
  have hmap := (perm_sortedByKey before key items).map (·.2)
  rw [List.map_map] at hmap
  have hitems : items.map ((·.2) ∘ fun item => (key item, item)) = items := List.map_id' items
  rwa [hitems] at hmap

theorem fst_of_mem_sortedByKey {entry : β × α} (h : entry ∈ sortedByKey before key items) :
    entry.1 = key entry.2 := by
  obtain ⟨item, -, rfl⟩ := List.mem_map.mp ((perm_sortedByKey before key items).mem_iff.mp h)
  rfl

variable {before}
  (htrans : ∀ a b c, before a b = true → before b c = true → before a c = true)
  (htotal : ∀ a b, (before a b || before b a) = true)
include htrans htotal

theorem pairwise_sortedByKey :
    (sortedByKey before key items).Pairwise fun a b => before a.1 b.1 = true :=
  List.pairwise_mergeSort (fun a b c => htrans a.1 b.1 c.1) (fun a b => htotal a.1 b.1) _

theorem sortedByKey_eq_insertionSort :
    sortedByKey before key items =
      (items.map fun item => (key item, item)).insertionSort fun a b => before a.1 b.1 = true :=
  mergeSort_eq_insertionSort (fun a b c => htrans a.1 b.1 c.1) (fun a b => htotal a.1 b.1) _

/-- The items of one key stand in their order. -/
theorem filter_sortedByKey [DecidableEq β] (k : β) :
    ((sortedByKey before key items).filter (·.1 = k)).map (·.2) = items.filter (key · = k) := by
  have htied : ∀ a b : β × α, decide (a.1 = k) = true → decide (b.1 = k) = true →
      before a.1 b.1 = true := by
    intro a b ha hb
    rw [of_decide_eq_true ha, of_decide_eq_true hb]
    simpa only [Bool.or_self] using htotal k k
  rw [sortedByKey, filter_mergeSort_of_tied (fun a b c => htrans a.1 b.1 c.1)
    (fun a b => htotal a.1 b.1) htied, List.filter_map, List.map_map]
  exact List.map_id' _

end SortedByKey

end IccProfile
