import IccProfile.Proofs.Json.Reading
import IccProfile.Proofs.Keyed

/-!
# JSON values read back

A value without floating point numbers, whose integers fit 64 bits and whose objects have no
name twice, reads back from both of its texts (`ofText?_compact`, `ofText?_pretty`), with its
members in their order, as long as it is not nested too deep.
-/

set_option autoImplicit false

namespace IccProfile.Json

/-! ## Members -/

theorem setMember_eq (name : String) (value : Json) (members : List (String × Json)) :
    setMember name value members = putItem (·.1) (name, value) members := by
  induction members with
  | nil => rfl
  | cons first rest ih => rw [setMember, putItem, ih]

theorem collect_eq (members : List (String × Json)) :
    collect members = members.foldl (fun found m => putItem (·.1) m found) [] := by
  simp only [collect, setMember_eq]

/-- Members of different names are gathered as they are. -/
theorem collect_eq_self {members : List (String × Json)} (h : (members.map (·.1)).Nodup) :
    collect members = members :=
  (collect_eq members).trans (foldl_putItem Prod.fst h)

/-- What was wrapped stands behind the path. -/
theorem getPath?_wrap (path : List String) (value : Json) :
    (wrap path value).getPath? path = some value := by
  induction path with
  | nil => rfl
  | cons name path ih =>
      have hname : (wrap (name :: path) value).get? name = some (wrap path value) := by
        simp [wrap, get?]
      rw [getPath?, List.foldlM_cons, hname]
      exact ih

/-! ## Values that read back -/

/-- The value has at most `depth` nested arrays and objects, no floating point number and no
integer beyond 64 bits, and no object has a name twice. -/
inductive Plain : Nat → Json → Prop
  | null {depth} : Plain depth .null
  | bool {depth} (b : Bool) : Plain depth (.bool b)
  | int {depth n} (h : FitsWord n) : Plain depth (.int n)
  | string {depth} (s : String) : Plain depth (.string s)
  | array {depth items} (h : ∀ item ∈ items, Plain depth item) : Plain (depth + 1) (.array items)
  | object {depth members} (h : ∀ m ∈ members, Plain depth m.2)
      (hnames : (members.map (·.1)).Nodup) : Plain (depth + 1) (.object members)

theorem Plain.wrap {depth : Nat} {value : Json} (h : Plain depth value) (path : List String) :
    Plain (depth + path.length) (Json.wrap path value) := by
  induction path with
  | nil => exact h
  | cons name path ih =>
      refine .object ?_ (List.nodup_singleton name)
      intro m hm
      obtain rfl := List.mem_singleton.mp hm
      exact ih

/-- A document that a value is read as stands for the value. -/
def Stands (l : Layout) (depth : Nat) (value : Json) (document : Document) : Prop :=
  l.Reads value document ∧ ofDocument? depth document = some value

theorem exists_forall₂ {α β : Type} {R : α → β → Prop} {items : List α}
    (h : ∀ x ∈ items, ∃ y, R x y) : ∃ ys, List.Forall₂ R items ys := by
  induction items with
  | nil => exact ⟨[], .nil⟩
  | cons x items ih =>
      obtain ⟨y, hy⟩ := h x List.mem_cons_self
      obtain ⟨ys, hys⟩ := ih fun x hx => h x (List.mem_cons_of_mem _ hx)
      exact ⟨y :: ys, .cons hy hys⟩

theorem itemValues?_of_forall₂ {depth : Nat} {items : List Json} {documents : List Document}
    (h : List.Forall₂ (fun v d => ofDocument? depth d = some v) items documents) :
    itemValues? depth documents = some items := by
  induction h with
  | nil => rfl
  | cons hitem _ ih => simp [itemValues?, hitem, ih]

theorem memberValues?_of_forall₂ {depth : Nat} {members : List (String × Json)}
    {documents : List (List StringPart × Document)}
    (h : List.Forall₂ (fun m d => partsOf m.1 = d.1 ∧ ofDocument? depth d.2 = some m.2)
      members documents) :
    memberValues? depth documents = some members := by
  induction h with
  | nil => rfl
  | @cons m d _ _ hm _ ih => simp [memberValues?, ← hm.1, text?_partsOf, hm.2, ih]

/-- Some document stands for the value, in every layout. -/
theorem Plain.exists_stands {depth : Nat} {value : Json} (h : Plain depth value) (l : Layout) :
    ∃ document, Stands l depth value document := by
  induction h with
  | null => exact ⟨.null, l.reads_null, rfl⟩
  | bool b => exact ⟨.bool b, l.reads_bool b, rfl⟩
  | int hfits => exact ⟨_, l.reads_int _, by rw [ofDocument?]; exact numberValue?_numberText hfits⟩
  | string s => exact ⟨_, l.reads_string s, by rw [ofDocument?, text?_partsOf]; rfl⟩
  | array _ ih =>
      obtain ⟨documents, hdocuments⟩ := exists_forall₂ ih
      refine ⟨.array documents, l.reads_array (hdocuments.imp fun _ _ h => h.1), ?_⟩
      rw [ofDocument?, itemValues?_of_forall₂ (hdocuments.imp fun _ _ h => h.2)]
      rfl
  | @object depth members _ hnames ih =>
      have hmembers : ∀ m ∈ members, ∃ d : List StringPart × Document,
          partsOf m.1 = d.1 ∧ Stands l depth m.2 d.2 := by
        intro m hm
        obtain ⟨document, hdocument⟩ := ih m hm
        exact ⟨(partsOf m.1, document), rfl, hdocument⟩
      obtain ⟨documents, hdocuments⟩ := exists_forall₂ hmembers
      refine ⟨.object documents, l.reads_object (hdocuments.imp fun _ _ h => ⟨h.1, h.2.1⟩), ?_⟩
      rw [ofDocument?, memberValues?_of_forall₂ (hdocuments.imp fun _ _ h => ⟨h.1, h.2.2⟩),
        Option.map_some, collect_eq_self hnames]

/-! ## Texts -/

variable {value : Json}

theorem ofText?_lay (l : Layout) (h : Plain maxDepth value) :
    ofText? (String.ofList (l.lay 0 value)) = some value := by
  obtain ⟨document, hreads, hvalue⟩ := h.exists_stands l
  rw [ofText?, hreads.ofText? 0]
  exact hvalue

/-- A value reads back from its text without any space. -/
theorem ofText?_compact (h : Plain maxDepth value) : ofText? value.compact = some value := by
  rw [compact, render_eq 0]
  exact ofText?_lay Layout.tight h

/-- A value reads back from its text with one item per line. -/
theorem ofText?_pretty (h : Plain maxDepth value) : ofText? value.pretty = some value := by
  rw [pretty, renderPretty_eq]
  exact ofText?_lay Layout.indented h

end IccProfile.Json
