import IccProfile.Proofs.Json.RoundTrip

/-!
# Names of members

A repeated name of an object keeps its last value, so no object of a value that was read has
a name twice (`wellNamed_ofText?`). The same holds of every value inside it
(`WellNamed.getPath?`).
-/

set_option autoImplicit false

namespace IccProfile.Json

/-- No object has a name twice. -/
inductive WellNamed : Json → Prop
  | null : WellNamed .null
  | bool (b : Bool) : WellNamed (.bool b)
  | int (n : Int) : WellNamed (.int n)
  | float (x : Float) : WellNamed (.float x)
  | string (s : String) : WellNamed (.string s)
  | array {items} (h : ∀ item ∈ items, WellNamed item) : WellNamed (.array items)
  | object {members} (h : ∀ m ∈ members, WellNamed m.2)
      (hnames : (members.map (·.1)).Nodup) : WellNamed (.object members)

theorem wellNamed_numberValue? {text : NumberText} {value : Json}
    (h : numberValue? text = some value) : WellNamed value := by
  have hfloat : ∀ x? : Option Float, x?.map Json.float = some value → WellNamed value := by
    intro x? hx
    obtain ⟨x, -, rfl⟩ := Option.map_eq_some_iff.mp hx
    exact .float x
  unfold numberValue? at h
  simp only at h
  split at h
  -- there is neither a fraction nor an exponent
  · split at h
    · exact hfloat _ h
    · split at h
      · cases h
        exact .int _
      · split at h <;> cases h
        · exact .float _
        · exact .int _
  · split at h
    · exact hfloat _ h
    · exact hfloat _ h

theorem wellNamed_collect {members : List (String × Json)} (h : ∀ m ∈ members, WellNamed m.2) :
    WellNamed (.object (collect members)) := by
  rw [collect_eq]
  refine .object ?_ (nodup_foldl_putItem Prod.fst members List.nodup_nil)
  intro m hm
  exact (mem_foldl_putItem Prod.fst hm).elim (h m) fun hnone => absurd hnone List.not_mem_nil

mutual

theorem wellNamed_ofDocument? {depth : Nat} {value : Json} (document : Document)
    (h : ofDocument? depth document = some value) : WellNamed value := by
  cases document with
  | null => 
      rw [ofDocument?] at h
      cases h
      exact .null
  | bool b =>
      rw [ofDocument?] at h
      cases h
      exact .bool b
  | number text => 
      rw [ofDocument?] at h
      exact wellNamed_numberValue? h
  | string parts =>
      rw [ofDocument?] at h
      obtain ⟨s, -, rfl⟩ := Option.map_eq_some_iff.mp h
      exact .string s
  | array items =>
      cases depth with
      | zero =>
          rw [ofDocument?] at h
          cases h
      | succ depth =>
          rw [ofDocument?] at h
          obtain ⟨values, hvalues, rfl⟩ := Option.map_eq_some_iff.mp h
          exact .array (wellNamed_itemValues? items hvalues)
  | object members =>
      cases depth with
      | zero =>
          rw [ofDocument?] at h
          cases h
      | succ depth =>
          rw [ofDocument?] at h
          obtain ⟨values, hvalues, rfl⟩ := Option.map_eq_some_iff.mp h
          exact wellNamed_collect (wellNamed_memberValues? members hvalues)

theorem wellNamed_itemValues? {depth : Nat} {values : List Json} (items : List Document)
    (h : itemValues? depth items = some values) : ∀ value ∈ values, WellNamed value := by
  cases items with
  | nil =>
      rw [itemValues?] at h
      cases h
      exact List.forall_mem_nil _
  | cons item rest =>
      rw [itemValues?] at h
      obtain ⟨value, hvalue, h⟩ := Option.bind_eq_some_iff.mp h
      obtain ⟨more, hmore, h⟩ := Option.bind_eq_some_iff.mp h
      cases h
      exact List.forall_mem_cons.mpr
        ⟨wellNamed_ofDocument? item hvalue, wellNamed_itemValues? rest hmore⟩

theorem wellNamed_memberValues? {depth : Nat} {values : List (String × Json)}
    (members : List (List StringPart × Document))
    (h : memberValues? depth members = some values) : ∀ m ∈ values, WellNamed m.2 := by
  cases members with
  | nil =>
      rw [memberValues?] at h
      cases h
      exact List.forall_mem_nil _
  | cons first rest =>
      obtain ⟨name, item⟩ := first
      rw [memberValues?] at h
      obtain ⟨name, -, h⟩ := Option.bind_eq_some_iff.mp h
      obtain ⟨value, hvalue, h⟩ := Option.bind_eq_some_iff.mp h
      obtain ⟨more, hmore, h⟩ := Option.bind_eq_some_iff.mp h
      cases h
      exact List.forall_mem_cons.mpr
        ⟨wellNamed_ofDocument? item hvalue, wellNamed_memberValues? rest hmore⟩

end

theorem wellNamed_ofText? {text : String} {value : Json} (h : ofText? text = some value) :
    WellNamed value := by
  obtain ⟨document, -, hvalue⟩ := Option.bind_eq_some_iff.mp h
  exact wellNamed_ofDocument? document hvalue

/-! ## Parts of a value -/

namespace WellNamed

variable {value part : Json}

theorem of_mem_members {members : List (String × Json)} (h : WellNamed value)
    (hmembers : value.members? = some members) :
    (members.map (·.1)).Nodup ∧ ∀ m ∈ members, WellNamed m.2 := by
  cases h with
  | object hvalues hnames =>
      cases hmembers
      exact ⟨hnames, hvalues⟩
  | _ => cases hmembers

theorem of_mem_items {items : List Json} (h : WellNamed value)
    (hitems : value.items? = some items) : ∀ item ∈ items, WellNamed item := by
  cases h with
  | array hvalues =>
      cases hitems
      exact hvalues
  | _ => cases hitems

theorem get? {name : String} (h : WellNamed value) (hpart : value.get? name = some part) :
    WellNamed part := by
  cases h with
  | object hvalues hnames =>
      rw [Json.get?, lookup_eq] at hpart
      obtain ⟨m, hm, rfl⟩ := Option.map_eq_some_iff.mp hpart
      exact hvalues m (List.mem_of_find?_eq_some hm)
  | _ => cases hpart

theorem getPath? {path : List String} (h : WellNamed value)
    (hpart : value.getPath? path = some part) : WellNamed part := by
  induction path generalizing value with
  | nil =>
      cases hpart
      exact h
  | cons name path ih =>
      rw [Json.getPath?, List.foldlM_cons] at hpart
      obtain ⟨inner, hinner, hpart⟩ := Option.bind_eq_some_iff.mp hpart
      exact ih (h.get? hinner) hpart

end WellNamed

end IccProfile.Json
