import IccProfile.Proofs.Json.Layout
import Mathlib.Data.List.Forall2

/-!
# Reading laid out texts

`Layout.Reads value document` says that the text of a value is read as a document, whatever
follows it. There is one lemma for each kind of value: a number, a string, an array whose items
are read (`reads_array`), an object whose members are read (`reads_object`). The bound of the
reader's steps is twice the length of the text, which is what a whole text is given
(`Reads.ofText?`).
-/

set_option autoImplicit false

namespace IccProfile.Json

variable {rest : List Char} {steps : Nat}

theorem endsNumber_cons {c : Char} (h : c = ',' ∨ c = ']' ∨ c = '\x7d' ∨ isSpace c = true)
    (rest : List Char) : EndsNumber (c :: rest) := by
  intro d hd
  obtain rfl : c = d := by simpa using hd
  rcases h with rfl | rfl | rfl | hspace
  · decide
  · decide
  · decide
  · simp only [isSpace, Bool.or_eq_true, decide_eq_true_eq] at hspace
    rcases hspace with ((rfl | rfl) | rfl) | rfl
    all_goals decide

/-- White space ends a number, and so does what may follow it. -/
theorem endsNumber_append {space : List Char} (h : IsBlank space) (hrest : EndsNumber rest) :
    EndsNumber (space ++ rest) := by
  cases space with
  | nil => exact hrest
  | cons c more => exact endsNumber_cons (.inr (.inr (.inr (h c List.mem_cons_self)))) _

/-! ## One step of the reader -/

theorem readValue?_string {parts : List StringPart} {tail : List Char}
    (h : stringParts? rest = some (parts, tail)) :
    readValue? (steps + 1) ('"' :: rest) = some (.string parts, tail) := by
  rw [readValue?.eq_def]
  simp [skipSpace_cons (show isSpace '"' = false by decide), h]

/-- A sign or a digit starts a number. -/
theorem readValue?_number {c : Char} {text : NumberText} {tail : List Char}
    (hc : c = '-' ∨ Number.isDigit c = true) (h : number? (c :: rest) = some (text, tail)) :
    readValue? (steps + 1) (c :: rest) = some (.number text, tail) := by
  have hother : ∀ d ∈ ['n', 't', 'f', '"', '[', '\x7b', ' ', '\n', '\t', '\r'], c ≠ d := by
    rintro d hd rfl
    rcases hc with rfl | hdigit
    · exact absurd hd (by decide)
    · have hnone : (['n', 't', 'f', '"', '[', '\x7b', ' ', '\n', '\t', '\r'].all fun d =>
          !Number.isDigit d) = true := by decide
      have hnot := List.all_eq_true.mp hnone c hd
      rw [hdigit] at hnot
      exact absurd hnot (by decide)
  have hspace : isSpace c = false := by
    simp [isSpace, hother ' ' (by decide), hother '\n' (by decide), hother '\t' (by decide),
      hother '\r' (by decide)]
  rw [readValue?.eq_def]
  simp only [skipSpace_cons hspace]
  split
  · next heq => exact absurd (List.cons.inj heq).1 (hother 'n' (by decide))
  · next heq => exact absurd (List.cons.inj heq).1 (hother 't' (by decide))
  · next heq => exact absurd (List.cons.inj heq).1 (hother 'f' (by decide))
  · next heq => exact absurd (List.cons.inj heq).1 (hother '"' (by decide))
  · next heq => exact absurd (List.cons.inj heq).1 (hother '[' (by decide))
  · next heq => exact absurd (List.cons.inj heq).1 (hother '\x7b' (by decide))
  · simp [h]

/-- Behind an opening bracket stand the items, unless the first of them fails. -/
theorem readValue?_array {items : List Document} {first : Document} {more tail : List Char}
    (hfirst : readValue? steps rest = some (first, more))
    (hitems : readItems? steps rest = some (items, tail)) :
    readValue? (steps + 1) ('[' :: rest) = some (.array items, tail) := by
  rw [readValue?.eq_def]
  simp only [skipSpace_cons (show isSpace '[' = false by decide)]
  split
  · next other hbracket =>
      rw [readValue?_of_bracket hbracket] at hfirst
      exact absurd hfirst (by simp)
  · simp [hitems]

theorem readValue?_object {members : List (List StringPart × Document)} {more tail : List Char}
    (hquote : skipSpace rest = '"' :: more)
    (hmembers : readMembers? steps rest = some (members, tail)) :
    readValue? (steps + 1) ('\x7b' :: rest) = some (.object members, tail) := by
  rw [readValue?.eq_def]
  simp [skipSpace_cons (show isSpace '\x7b' = false by decide), hquote, hmembers]

theorem readItems?_append {space : List Char} (h : IsBlank space) (steps : Nat) (cs : List Char) :
    readItems? steps (space ++ cs) = readItems? steps cs := by
  cases steps with
  | zero => rfl
  | succ steps => rw [readItems?, readItems?, readValue?_append h]

theorem readItems?_last {item : Document} {cs tail : List Char}
    (hitem : readValue? steps cs = some (item, rest)) (hend : skipSpace rest = ']' :: tail) :
    readItems? (steps + 1) cs = some ([item], tail) := by
  simp [readItems?, hitem, hend]

theorem readItems?_more {item : Document} {items : List Document} {cs more tail : List Char}
    (hitem : readValue? steps cs = some (item, rest)) (hcomma : skipSpace rest = ',' :: more)
    (hitems : readItems? steps more = some (items, tail)) :
    readItems? (steps + 1) cs = some (item :: items, tail) := by
  simp [readItems?, hitem, hcomma, hitems]

section Member

variable {name : List StringPart} {item : Document} {cs value : List Char}
  (hname : stringParts? cs = some (name, ':' :: value))
  (hitem : readValue? steps value = some (item, rest))
include hname hitem

theorem readMembers?_last {tail : List Char} (hend : skipSpace rest = '\x7d' :: tail) :
    readMembers? (steps + 1) ('"' :: cs) = some ([(name, item)], tail) := by
  simp [readMembers?, skipSpace_cons (show isSpace '"' = false by decide),
    skipSpace_cons (show isSpace ':' = false by decide), hname, hitem, hend]

theorem readMembers?_more {members : List (List StringPart × Document)} {more tail : List Char}
    (hcomma : skipSpace rest = ',' :: more)
    (hmembers : readMembers? steps more = some (members, tail)) :
    readMembers? (steps + 1) ('"' :: cs) = some ((name, item) :: members, tail) := by
  simp [readMembers?, skipSpace_cons (show isSpace '"' = false by decide),
    skipSpace_cons (show isSpace ':' = false by decide), hname, hitem, hcomma, hmembers]

end Member

/-! ## Values -/

namespace Layout

variable {l : Layout} {items : List Json} {documents : List Document}

/-- The text of a value is read as a document, whatever follows it. -/
def Reads (l : Layout) (value : Json) (document : Document) : Prop :=
  ∀ depth steps rest, 2 * (l.lay depth value).length ≤ steps → EndsNumber rest →
    readValue? steps (l.lay depth value ++ rest) = some (document, rest)

/-- A member is read as a name and a document. -/
def ReadsMember (l : Layout) (m : String × Json) (d : List StringPart × Document) : Prop :=
  partsOf m.1 = d.1 ∧ l.Reads m.2 d.2

theorem reads_null (l : Layout) : l.Reads .null .null := by
  intro depth steps rest hsteps hrest
  have htext : l.lay depth .null = ['n', 'u', 'l', 'l'] := rfl
  rw [htext] at hsteps ⊢
  obtain ⟨k, rfl⟩ : ∃ k, steps = k + 1 := ⟨steps - 1, by rw [List.length_cons] at hsteps; omega⟩
  simp [readValue?, skipSpace, isSpace]

theorem reads_bool (l : Layout) (b : Bool) : l.Reads (.bool b) (.bool b) := by
  intro depth steps rest hsteps hrest
  have htext : l.lay depth (.bool b) =
      if b then ['t', 'r', 'u', 'e'] else ['f', 'a', 'l', 's', 'e'] := by
    cases b <;> rfl
  rw [htext] at hsteps ⊢
  obtain ⟨k, rfl⟩ : ∃ k, steps = k + 1 :=
    ⟨steps - 1, by split at hsteps <;> simp at hsteps <;> omega⟩
  cases b <;> simp [readValue?, skipSpace, isSpace]

theorem lay_string (l : Layout) (depth : Nat) (s : String) :
    l.lay depth (.string s) = '"' :: (s.toList.flatMap renderChar ++ ['"']) := by
  simp [lay, renderLeaf, renderString]

theorem reads_string (l : Layout) (s : String) : l.Reads (.string s) (.string (partsOf s)) := by
  intro depth steps rest hsteps hrest
  rw [lay_string] at hsteps ⊢
  obtain ⟨k, rfl⟩ : ∃ k, steps = k + 1 := ⟨steps - 1, by rw [List.length_cons] at hsteps; omega⟩
  rw [List.cons_append, List.append_assoc]
  exact readValue?_string (stringParts?_renderString s rest)

/-- An integer starts with a sign or a digit. -/
theorem renderInt_cases (n : Int) :
    ∃ c more, renderInt n = c :: more ∧ (c = '-' ∨ Number.isDigit c = true) := by
  rw [renderInt]
  split
  · exact ⟨'-', decimalDigits n.natAbs, rfl, .inl rfl⟩
  · cases hdigits : decimalDigits n.natAbs with
    | nil => exact absurd hdigits Nat.toDigits_ne_nil
    | cons c more =>
        have hmem : c ∈ decimalDigits n.natAbs := by
          rw [hdigits]
          exact List.mem_cons_self
        exact ⟨c, more, rfl, .inr (isDigit_of_mem_decimalDigits hmem)⟩

theorem reads_int (l : Layout) (n : Int) : l.Reads (.int n) (.number (numberText n)) := by
  intro depth steps rest hsteps hrest
  have htext : l.lay depth (.int n) = renderInt n := rfl
  have hnumber := number?_renderInt n hrest
  obtain ⟨c, more, hrender, hc⟩ := renderInt_cases n
  rw [htext, hrender] at hsteps ⊢
  rw [hrender] at hnumber
  obtain ⟨k, rfl⟩ : ∃ k, steps = k + 1 := ⟨steps - 1, by rw [List.length_cons] at hsteps; omega⟩
  exact readValue?_number hc hnumber

/-! ### Arrays -/

theorem lay_array (l : Layout) (depth : Nat) (item : Json) (items : List Json) :
    l.lay depth (.array (item :: items)) =
      '[' :: (l.line (depth + 1) ++ (l.lay (depth + 1) item ++ l.layItems depth items)) := by
  simp [lay]

theorem layItems_cons (l : Layout) (depth : Nat) (item : Json) (items : List Json) :
    l.layItems depth (item :: items) =
      ',' :: (l.line (depth + 1) ++ (l.lay (depth + 1) item ++ l.layItems depth items)) := by
  simp [layItems]

theorem length_layItems_pos (l : Layout) (depth : Nat) (items : List Json) :
    0 < (l.layItems depth items).length := by
  cases items with
  | nil => simp [layItems]
  | cons item items => simp [layItems_cons]

theorem endsNumber_layItems (l : Layout) (depth : Nat) (items : List Json) (rest : List Char) :
    EndsNumber (l.layItems depth items ++ rest) := by
  cases items with
  | nil =>
      rw [layItems, List.append_assoc]
      exact endsNumber_append (l.isBlank_line depth) (endsNumber_cons (.inr (.inl rfl)) rest)
  | cons item items =>
      rw [layItems_cons]
      exact endsNumber_cons (.inl rfl) _

/-- The items of an array are read to its end. -/
theorem readItems?_lay (hitems : List.Forall₂ l.Reads items documents) {item : Json}
    {document : Document} (hitem : l.Reads item document) (depth steps : Nat) (rest : List Char)
    (hsteps : 2 * ((l.lay (depth + 1) item).length + (l.layItems depth items).length) ≤ steps) :
    readItems? steps (l.lay (depth + 1) item ++ (l.layItems depth items ++ rest)) =
      some (document :: documents, rest) := by
  induction hitems generalizing item document steps with
  | nil =>
      have hpos := l.length_layItems_pos depth []
      obtain ⟨k, rfl⟩ : ∃ k, steps = k + 1 := ⟨steps - 1, by omega⟩
      have hvalue := hitem (depth + 1) k _ (by omega) (l.endsNumber_layItems depth [] rest)
      refine readItems?_last hvalue ?_
      rw [layItems, List.append_assoc, skipSpace_append (l.isBlank_line depth)]
      exact skipSpace_cons (by decide) rest
  | @cons next nextDocument items documents hnext hitems ih =>
      have hpos := l.length_layItems_pos depth (next :: items)
      obtain ⟨k, rfl⟩ : ∃ k, steps = k + 1 := ⟨steps - 1, by omega⟩
      have hvalue :=
        hitem (depth + 1) k _ (by omega) (l.endsNumber_layItems depth (next :: items) rest)
      rw [layItems_cons] at hsteps hvalue ⊢
      refine readItems?_more hvalue (skipSpace_cons (by decide) _) ?_
      rw [List.append_eq, List.append_assoc, List.append_assoc,
        readItems?_append (l.isBlank_line (depth + 1))]
      simp only [List.length_cons, List.length_append] at hsteps
      exact ih hnext k (by omega)

/-- An array is read when its items are. -/
theorem reads_array (h : List.Forall₂ l.Reads items documents) :
    l.Reads (.array items) (.array documents) := by
  intro depth steps rest hsteps hrest
  cases h with
  | nil =>
      obtain ⟨k, rfl⟩ : ∃ k, steps = k + 1 :=
        ⟨steps - 1, by simp [lay, renderLeaf] at hsteps; omega⟩
      simp [lay, renderLeaf, readValue?, skipSpace, isSpace]
  | @cons item document items documents hitem hitems =>
      have hpos := l.length_layItems_pos depth items
      rw [lay_array] at hsteps ⊢
      simp only [List.length_cons, List.length_append] at hsteps
      obtain ⟨k, rfl⟩ : ∃ k, steps = k + 1 := ⟨steps - 1, by omega⟩
      have hvalue := hitem (depth + 1) k _ (by omega) (l.endsNumber_layItems depth items rest)
      rw [List.cons_append, List.append_assoc, List.append_assoc]
      refine readValue?_array ((readValue?_append (l.isBlank_line (depth + 1)) k _).trans hvalue) ?_
      rw [readItems?_append (l.isBlank_line (depth + 1))]
      exact readItems?_lay hitems hitem depth k rest (by omega)

/-! ### Objects -/

/-- The text of a member behind the quote of its name, and of the members behind it. -/
def layMember (l : Layout) (depth : Nat) (m : String × Json) (members : List (String × Json)) :
    List Char :=
  m.1.toList.flatMap renderChar ++ '"' :: ':' :: (l.gap ++
    (l.lay (depth + 1) m.2 ++ l.layMembers depth members))

variable {members : List (String × Json)} {memberDocuments : List (List StringPart × Document)}

theorem lay_object (l : Layout) (depth : Nat) (m : String × Json)
    (members : List (String × Json)) :
    l.lay depth (.object (m :: members)) =
      '\x7b' :: (l.line (depth + 1) ++ '"' :: l.layMember depth m members) := by
  simp [lay, layMember, renderString]

theorem layMembers_cons (l : Layout) (depth : Nat) (m : String × Json)
    (members : List (String × Json)) :
    l.layMembers depth (m :: members) =
      ',' :: (l.line (depth + 1) ++ '"' :: l.layMember depth m members) := by
  simp [layMembers, layMember, renderString]

theorem endsNumber_layMembers (l : Layout) (depth : Nat) (members : List (String × Json))
    (rest : List Char) : EndsNumber (l.layMembers depth members ++ rest) := by
  cases members with
  | nil =>
      rw [layMembers, List.append_assoc]
      exact endsNumber_append (l.isBlank_line depth) (endsNumber_cons (.inr (.inr (.inl rfl))) rest)
  | cons m members =>
      rw [layMembers_cons]
      exact endsNumber_cons (.inl rfl) _

/-- The name and the value of a member are read, up to the members behind it. -/
theorem readMember_lay {m : String × Json} {d : List StringPart × Document}
    (hm : l.ReadsMember m d) (depth steps : Nat) (members : List (String × Json))
    (rest : List Char) (hsteps : 2 * (l.layMember depth m members).length ≤ steps + 1) :
    ∃ value, stringParts? (l.layMember depth m members ++ rest) = some (d.1, ':' :: value) ∧
      readValue? steps value = some (d.2, l.layMembers depth members ++ rest) := by
  obtain ⟨hname, hitem⟩ := hm
  refine ⟨l.gap ++ (l.lay (depth + 1) m.2 ++ (l.layMembers depth members ++ rest)), ?_, ?_⟩
  · rw [← hname, layMember, List.append_assoc, List.cons_append, List.cons_append,
      List.append_assoc, List.append_assoc]
    exact stringParts?_renderString m.1 _
  · rw [readValue?_append l.isBlank_gap]
    simp only [layMember, List.length_append, List.length_cons] at hsteps
    exact hitem (depth + 1) steps _ (by omega) (l.endsNumber_layMembers depth members rest)

/-- The members of an object are read to its end. -/
theorem readMembers?_lay (hmembers : List.Forall₂ l.ReadsMember members memberDocuments)
    {m : String × Json} {d : List StringPart × Document} (hm : l.ReadsMember m d)
    (depth steps : Nat) (rest : List Char)
    (hsteps : 2 * (l.layMember depth m members).length ≤ steps) :
    readMembers? steps ('"' :: (l.layMember depth m members ++ rest)) =
      some (d :: memberDocuments, rest) := by
  have hpos : 0 < (l.layMember depth m members).length := by simp [layMember]
  induction hmembers generalizing m d steps with
  | nil =>
      obtain ⟨k, rfl⟩ : ∃ k, steps = k + 1 := ⟨steps - 1, by omega⟩
      obtain ⟨value, hname, hvalue⟩ := readMember_lay hm depth k [] rest hsteps
      refine readMembers?_last hname hvalue ?_
      rw [layMembers, List.append_assoc, skipSpace_append (l.isBlank_line depth)]
      exact skipSpace_cons (by decide) rest
  | @cons next nextDocument members memberDocuments hnext hmembers ih =>
      obtain ⟨k, rfl⟩ : ∃ k, steps = k + 1 := ⟨steps - 1, by omega⟩
      obtain ⟨value, hname, hvalue⟩ := readMember_lay hm depth k (next :: members) rest hsteps
      have hcomma : skipSpace (l.layMembers depth (next :: members) ++ rest) =
          ',' :: (l.line (depth + 1) ++ '"' :: (l.layMember depth next members ++ rest)) := by
        simp [layMembers_cons, skipSpace_cons (show isSpace ',' = false by decide)]
      refine readMembers?_more hname hvalue hcomma ?_
      rw [readMembers?_append (l.isBlank_line (depth + 1))]
      rw [layMember, layMembers_cons] at hsteps
      simp only [List.length_append, List.length_cons] at hsteps
      exact ih hnext k (by omega) (by simp [layMember])

/-- An object is read when its members are. -/
theorem reads_object (h : List.Forall₂ l.ReadsMember members memberDocuments) :
    l.Reads (.object members) (.object memberDocuments) := by
  intro depth steps rest hsteps hrest
  cases h with
  | nil =>
      obtain ⟨k, rfl⟩ : ∃ k, steps = k + 1 :=
        ⟨steps - 1, by simp [lay, renderLeaf] at hsteps; omega⟩
      simp [lay, renderLeaf, readValue?, skipSpace, isSpace]
  | @cons m d members memberDocuments hm hmembers =>
      rw [lay_object] at hsteps ⊢
      simp only [List.length_cons, List.length_append] at hsteps
      obtain ⟨k, rfl⟩ : ∃ k, steps = k + 1 := ⟨steps - 1, by omega⟩
      rw [List.cons_append, List.append_assoc, List.cons_append]
      have hquote : skipSpace (l.line (depth + 1) ++ '"' :: (l.layMember depth m members ++ rest)) =
          '"' :: (l.layMember depth m members ++ rest) := by
        rw [skipSpace_append (l.isBlank_line (depth + 1))]
        exact skipSpace_cons (by decide) _
      refine readValue?_object hquote ?_
      rw [readMembers?_append (l.isBlank_line (depth + 1))]
      exact readMembers?_lay hmembers hm depth k rest (by omega)

/-! ### Whole texts -/

/-- A text is read to its end. -/
theorem Reads.ofText? {value : Json} {document : Document} (h : l.Reads value document)
    (depth : Nat) : Document.ofText? (String.ofList (l.lay depth value)) = some document := by
  have hread := h depth (2 * (l.lay depth value).length + 2) [] (by omega) endsNumber_nil
  rw [List.append_nil] at hread
  simp [Document.ofText?, hread, skipSpace]

end Layout

end IccProfile.Json
