import IccProfile.Matching.Pattern
import IccProfile.Proofs.Sorting

/-!
# Choosing and sorting

Ranked items are a stable rearrangement (`isRanking_ranked`): their ranks descend, and the
items of one rank stand in their order (`filter_ranked`). Choosing keeps the first of the
items that rank highest; so does sorting, in the first place (`best?_eq_head?_ranked`).
Sorting what is sorted changes nothing (`ranked_map_ranked`), so the choice from the
sorted items is the choice from the items.
-/

set_option autoImplicit false

namespace IccProfile.Matching

variable {α : Type} (rankOf : α → Int32) (items : List α)

/-! ## Sorting -/

/-- The order of ranks: the higher one first. -/
def higherFirst (a b : Int32) : Bool := a ≥ b

theorem higherFirst_trans (a b c : Int32) (hab : higherFirst a b = true)
    (hbc : higherFirst b c = true) : higherFirst a c = true := by
  rw [higherFirst, decide_eq_true_eq] at hab hbc ⊢
  exact Int32.le_trans hbc hab

theorem higherFirst_total (a b : Int32) : (higherFirst a b || higherFirst b a) = true := by
  rw [higherFirst, higherFirst, Bool.or_eq_true, decide_eq_true_eq, decide_eq_true_eq]
  exact Int32.le_total b a

theorem ranked_eq : ranked rankOf items = sortedByKey higherFirst rankOf items := rfl

/-- Ranking is inserting one item after the other by its rank. -/
theorem ranked_eq_insertionSort :
    ranked rankOf items =
      (items.map fun item => (rankOf item, item)).insertionSort
        fun a b => higherFirst a.1 b.1 = true := by
  rw [ranked_eq, sortedByKey_eq_insertionSort rankOf items higherFirst_trans higherFirst_total]

/-- Ranked items are the items with their ranks. -/
theorem perm_ranked : (ranked rankOf items).Perm (items.map fun item => (rankOf item, item)) :=
  perm_sortedByKey higherFirst rankOf items

theorem perm_map_snd_ranked : ((ranked rankOf items).map (·.2)).Perm items :=
  perm_map_snd_sortedByKey higherFirst rankOf items

theorem fst_of_mem_ranked {entry : Int32 × α} (h : entry ∈ ranked rankOf items) :
    entry.1 = rankOf entry.2 :=
  fst_of_mem_sortedByKey higherFirst rankOf items h

/-- The ranks descend. -/
theorem pairwise_ranked : (ranked rankOf items).Pairwise fun a b => b.1 ≤ a.1 := by
  have hsorted := pairwise_sortedByKey rankOf items higherFirst_trans higherFirst_total
  exact hsorted.imp of_decide_eq_true

/-- The items of one rank stand in their order. -/
theorem filter_ranked (rank : Int32) :
    ((ranked rankOf items).filter (·.1 = rank)).map (·.2) = items.filter (rankOf · = rank) :=
  filter_sortedByKey rankOf items higherFirst_trans higherFirst_total rank

/-- Entries are items with their ranks, the highest first and those of one rank in their order. -/
structure IsRanking (rankOf : α → Int32) (items : List α) (entries : List (Int32 × α)) : Prop where
  perm : (entries.map (·.2)).Perm items
  fst_eq : ∀ entry ∈ entries, entry.1 = rankOf entry.2
  descends : entries.Pairwise fun a b => b.1 ≤ a.1
  stable : ∀ rank, (entries.filter (·.1 = rank)).map (·.2) = items.filter (rankOf · = rank)

theorem isRanking_ranked : IsRanking rankOf items (ranked rankOf items) :=
  ⟨perm_map_snd_ranked rankOf items, fun _ => fst_of_mem_ranked rankOf items,
    pairwise_ranked rankOf items, filter_ranked rankOf items⟩

/-- Sorting changes nothing in what stands in order with its ranks. -/
theorem ranked_of_pairwise {rankOf : α → Int32} {entries : List (Int32 × α)}
    (hranks : ∀ entry ∈ entries, entry.1 = rankOf entry.2)
    (hsorted : entries.Pairwise fun a b => b.1 ≤ a.1) :
    ranked rankOf (entries.map (·.2)) = entries := by
  have hsame : (entries.map (·.2)).map (fun item => (rankOf item, item)) = entries := by
    have hid : ∀ entry ∈ entries,
        ((fun item => (rankOf item, item)) ∘ fun entry : Int32 × α => entry.2) entry =
          id entry := by
      intro entry hentry
      exact Prod.ext (hranks entry hentry).symm rfl
    rw [List.map_map, List.map_congr_left hid, List.map_id]
  rw [ranked_eq, sortedByKey, hsame]
  exact List.mergeSort_of_pairwise (hsorted.imp decide_eq_true)

/-- Sorting what is sorted changes nothing. -/
theorem ranked_map_ranked :
    ranked rankOf ((ranked rankOf items).map (·.2)) = ranked rankOf items :=
  ranked_of_pairwise (fun _ => fst_of_mem_ranked rankOf items) (pairwise_ranked rankOf items)

/-! ## Choosing -/

/-- The first of the items that rank highest, with its rank. -/
structure IsFirstBest (top : Int32) (found : α) : Prop where
  rank_eq : rankOf found = top
  le_top : ∀ item ∈ items, rankOf item ≤ top
  find?_eq : items.find? (rankOf · = top) = some found

variable {rankOf items}

theorem IsFirstBest.unique {top other : Int32} {found another : α}
    (h : IsFirstBest rankOf items top found) (h' : IsFirstBest rankOf items other another) :
    top = other ∧ found = another := by
  have hmem := List.mem_of_find?_eq_some h.find?_eq
  have hmem' := List.mem_of_find?_eq_some h'.find?_eq
  have htop : top = other := by
    apply Int32.le_antisymm
    · rw [← h.rank_eq]
      exact h'.le_top found hmem
    · rw [← h'.rank_eq]
      exact h.le_top another hmem'
  subst htop
  exact ⟨rfl, Option.some.inj (h.find?_eq.symm.trans h'.find?_eq)⟩

/-- The step of the choice: an item that ranks higher than the best so far takes its place. -/
theorem best?_append (items : List α) (item : α) :
    best? rankOf (items ++ [item]) =
      match best? rankOf items with
      | none => some (rankOf item, item)
      | some (top, found) =>
        if rankOf item > top then some (rankOf item, item) else some (top, found) := by
  rw [best?, List.foldl_append]
  rfl

/-- The choice is the first of the items that rank highest; there is one unless there is no
item. -/
theorem best?_spec (rankOf : α → Int32) (items : List α) :
    (best? rankOf items = none ∧ items = []) ∨
      ∃ top found, best? rankOf items = some (top, found) ∧ IsFirstBest rankOf items top found := by
  induction items using List.reverseRecOn with
  | nil => exact .inl ⟨rfl, rfl⟩
  | append_singleton items item ih =>
      refine .inr ?_
      rw [best?_append]
      rcases ih with ⟨hnone, rfl⟩ | ⟨top, found, hbest, hfirst⟩
      -- the first item
      · rw [hnone]
        refine ⟨rankOf item, item, rfl, rfl, ?_, ?_⟩
        · intro other hother
          obtain rfl := List.mem_singleton.mp hother
          exact Int32.le_refl _
        · rw [List.nil_append, List.find?_singleton, decide_eq_true rfl]
          rfl
      · rw [hbest]
        simp only
        by_cases hhigher : rankOf item > top
        -- no item before it ranks as high
        · rw [if_pos hhigher]
          refine ⟨rankOf item, item, rfl, rfl, ?_, ?_⟩
          · intro other hother
            rcases List.mem_append.mp hother with hbefore | hlast
            · exact Int32.le_of_lt (Int32.lt_of_le_of_lt (hfirst.le_top other hbefore) hhigher)
            · obtain rfl := List.mem_singleton.mp hlast
              exact Int32.le_refl _
          · have hnone : items.find? (rankOf · = rankOf item) = none := by
              rw [List.find?_eq_none]
              intro other hother heq
              have hle := hfirst.le_top other hother
              rw [of_decide_eq_true heq] at hle
              exact Int32.not_le.mpr hhigher hle
            rw [List.find?_append, hnone, List.find?_singleton, decide_eq_true rfl]
            rfl
        -- the best so far stays
        · rw [if_neg hhigher]
          refine ⟨top, found, rfl, hfirst.rank_eq, ?_, ?_⟩
          · intro other hother
            rcases List.mem_append.mp hother with hbefore | hlast
            · exact hfirst.le_top other hbefore
            · obtain rfl := List.mem_singleton.mp hlast
              exact Int32.not_lt.mp hhigher
          · rw [List.find?_append, hfirst.find?_eq, Option.some_or]

/-- What sorting puts first is the first of the items that rank highest. -/
theorem isFirstBest_of_ranked {top : Int32} {found : α} {rest : List (Int32 × α)}
    (h : ranked rankOf items = (top, found) :: rest) : IsFirstBest rankOf items top found := by
  have hmem : (top, found) ∈ ranked rankOf items := by
    rw [h]
    exact List.mem_cons_self
  refine ⟨(fst_of_mem_ranked rankOf items hmem).symm, ?_, ?_⟩
  · intro item hitem
    have hentry : (rankOf item, item) ∈ ranked rankOf items :=
      (perm_ranked rankOf items).mem_iff.mpr (List.mem_map.mpr ⟨item, hitem, rfl⟩)
    rw [h] at hentry
    rcases List.mem_cons.mp hentry with heq | hrest
    · rw [← (Prod.mk.inj heq).1]
      exact Int32.le_refl _
    · have hsorted := pairwise_ranked rankOf items
      rw [h] at hsorted
      exact (List.pairwise_cons.mp hsorted).1 _ hrest
  -- it is the first of its rank among the sorted items, so also among the items
  · rw [← List.head?_filter, ← filter_ranked, h, List.filter_cons, decide_eq_true rfl]
    rfl

/-- Choosing keeps what sorting puts first. -/
theorem best?_eq_head?_ranked (rankOf : α → Int32) (items : List α) :
    best? rankOf items = (ranked rankOf items).head? := by
  rcases best?_spec rankOf items with ⟨hnone, rfl⟩ | ⟨top, found, hbest, hfirst⟩
  · rw [hnone, ranked, List.map_nil, List.mergeSort_nil, List.head?_nil]
  · cases hsorted : ranked rankOf items with
    | nil =>
        -- there is an item, so there is a sorted one
        have hlength := (perm_ranked rankOf items).length_eq
        rw [hsorted, List.length_map] at hlength
        have hnil := List.length_eq_zero_iff.mp hlength.symm
        rw [hnil] at hfirst
        cases hfirst.find?_eq
    | cons entry rest =>
        obtain ⟨other, another⟩ := entry
        obtain ⟨rfl, rfl⟩ := hfirst.unique (isFirstBest_of_ranked hsorted)
        rw [hbest, List.head?_cons]

/-- The first item when its rank is above zero, else the default. -/
def firstAbove (entries : List (Int32 × α)) (default : Option α) : Option α :=
  match entries.head? with
  | some (rank, first) => if rank > 0 then some first else default
  | none => default

theorem firstAbove_of_first {entries : List (Int32 × α)} {rank : Int32} {first : α}
    (hfirst : entries.head? = some (rank, first)) (hrank : 0 < rank) (default : Option α) :
    firstAbove entries default = some first := by
  rw [firstAbove, hfirst]
  exact if_pos hrank

theorem firstAbove_of_none {entries : List (Int32 × α)}
    (hnone : ∀ rank first, entries.head? = some (rank, first) → ¬ 0 < rank) (default : Option α) :
    firstAbove entries default = default := by
  unfold firstAbove
  split
  · next rank first hfirst => exact if_neg (hnone rank first hfirst)
  · rfl

/-- The item that sorting puts first is chosen, when its rank is above zero. -/
theorem select?_eq_firstAbove (rankOf : α → Int32) (items : List α) (default : Option α) :
    select? rankOf items default = firstAbove (ranked rankOf items) default := by
  rw [select?, best?_eq_head?_ranked]
  rfl

/-- Choosing from the sorted items gives the same. -/
theorem select?_map_ranked (rankOf : α → Int32) (items : List α) (default : Option α) :
    select? rankOf ((ranked rankOf items).map (·.2)) default = select? rankOf items default := by
  rw [select?_eq_firstAbove, select?_eq_firstAbove, ranked_map_ranked]

/-- What is chosen is one of the items. -/
theorem mem_of_select? {rankOf : α → Int32} {items : List α} {item : α}
    (h : select? rankOf items none = some item) : item ∈ items := by
  rw [select?_eq_firstAbove, firstAbove] at h
  split at h
  · next rank first hfirst =>
      split at h
      · obtain rfl := Option.some.inj h
        apply (perm_map_snd_ranked rankOf items).mem_iff.mp
        exact List.mem_map.mpr ⟨_, List.mem_of_head? hfirst, rfl⟩
      · cases h
  · cases h

end IccProfile.Matching
