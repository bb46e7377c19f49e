import IccProfile.Proofs.Json.Numbers
import IccProfile.Proofs.Json.Strings

/-!
# Layouts of JSON texts

The text without any space and the text with one item per line differ only in the white space
between the tokens. A `Layout` says where white space stands, `Layout.lay` writes a value with
it, and both texts are instances (`render_eq`, `renderPretty_eq`). The reader goes over white
space before a value or a member (`readValue?_append`, `readMembers?_append`).
-/

set_option autoImplicit false

namespace IccProfile.Json

variable {rest : List Char} {steps : Nat}

/-! ## White space -/

/-- Only white space. -/
def IsBlank (space : List Char) : Prop := ∀ c ∈ space, isSpace c = true

theorem skipSpace_append {space : List Char} (h : IsBlank space) (cs : List Char) :
    skipSpace (space ++ cs) = skipSpace cs :=
  List.dropWhile_append_of_pos h

theorem skipSpace_cons {c : Char} (h : isSpace c = false) (rest : List Char) :
    skipSpace (c :: rest) = c :: rest :=
  List.dropWhile_cons_of_neg (by simp [h])

/-- White space before a value does not count. -/
theorem readValue?_append {space : List Char} (h : IsBlank space) (steps : Nat) (cs : List Char) :
    readValue? steps (space ++ cs) = readValue? steps cs := by
  cases steps with
  | zero => rfl
  | succ steps => rw [readValue?.eq_def, readValue?.eq_def]; simp only [skipSpace_append h]

theorem readMembers?_append {space : List Char} (h : IsBlank space) (steps : Nat)
    (cs : List Char) : readMembers? steps (space ++ cs) = readMembers? steps cs := by
  cases steps with
  | zero => rfl
  | succ steps => rw [readMembers?, readMembers?, skipSpace_append h]

/-- No value starts with a closing bracket. -/
theorem readValue?_of_bracket {cs : List Char} (h : skipSpace cs = ']' :: rest) (steps : Nat) :
    readValue? steps cs = none := by
  cases steps with
  | zero => rfl
  | succ steps =>
      rw [readValue?.eq_def]
      simp only [h]
      rfl

/-! ## Layouts -/

/-- Where white space stands in a text. -/
structure Layout where
  /-- What stands before an item of an array or object that is so deep, and before its end. -/
  line : Nat → List Char
  /-- What stands between the colon and the value of a member. -/
  gap : List Char
  isBlank_line : ∀ depth, IsBlank (line depth)
  isBlank_gap : IsBlank gap

namespace Layout

mutual

/-- The text of a value whose own items are so deep. -/
def lay (l : Layout) (depth : Nat) : Json → List Char
  | .array (item :: items) =>
    '[' :: l.line (depth + 1) ++ l.lay (depth + 1) item ++ l.layItems depth items
  | .object ((name, item) :: members) =>
    '\x7b' :: l.line (depth + 1) ++ renderString name ++ ':' :: l.gap
      ++ l.lay (depth + 1) item ++ l.layMembers depth members
  | leaf => renderLeaf leaf

/-- The text of the further items of an array, to its end. -/
def layItems (l : Layout) (depth : Nat) : List Json → List Char
  | [] => l.line depth ++ [']']
  | item :: items =>
    ',' :: l.line (depth + 1) ++ l.lay (depth + 1) item ++ l.layItems depth items

/-- The text of the further members of an object, to its end. -/
def layMembers (l : Layout) (depth : Nat) : List (String × Json) → List Char
  | [] => l.line depth ++ ['\x7d']
  | (name, item) :: members =>
    ',' :: l.line (depth + 1) ++ renderString name ++ ':' :: l.gap
      ++ l.lay (depth + 1) item ++ l.layMembers depth members

end

/-- No space at all. -/
def tight : Layout where
  line _ := []
  gap := []
  isBlank_line _ := by simp [IsBlank]
  isBlank_gap := by simp [IsBlank]

/-- One item per line. -/
def indented : Layout where
  line := newLine
  gap := [' ']
  isBlank_line depth := by
    intro c hc
    rcases List.mem_cons.mp hc with rfl | hblank
    · rfl
    · rw [List.eq_of_mem_replicate hblank]
      rfl
  isBlank_gap := by simp [IsBlank, isSpace]

end Layout

mutual

theorem render_eq (depth : Nat) : ∀ value : Json, render value = Layout.tight.lay depth value
  | .array (item :: items) => by
      rw [render, Layout.lay, render_eq (depth + 1) item, renderItems_eq depth items]
      rfl
  | .object ((name, item) :: members) => by
      rw [render, Layout.lay, render_eq (depth + 1) item, renderMembers_eq depth members]
      simp [Layout.tight]
  | .null => rfl
  | .bool _ => rfl
  | .int _ => rfl
  | .float _ => rfl
  | .string _ => rfl
  | .array [] => rfl
  | .object [] => rfl

theorem renderItems_eq (depth : Nat) :
    ∀ items : List Json, renderItems items = Layout.tight.layItems depth items
  | [] => rfl
  | item :: items => by
      rw [renderItems, Layout.layItems, render_eq (depth + 1) item, renderItems_eq depth items]
      rfl

theorem renderMembers_eq (depth : Nat) :
    ∀ members : List (String × Json),
      renderMembers members = Layout.tight.layMembers depth members
  | [] => rfl
  | (name, item) :: members => by
      rw [renderMembers, Layout.layMembers, render_eq (depth + 1) item,
        renderMembers_eq depth members]
      simp [Layout.tight]

end

mutual

theorem renderPretty_eq (depth : Nat) :
    ∀ value : Json, renderPretty depth value = Layout.indented.lay depth value
  | .array (item :: items) => by
      rw [renderPretty, Layout.lay, renderPretty_eq (depth + 1) item, prettyItems_eq depth items]
      rfl
  | .object ((name, item) :: members) => by
      rw [renderPretty, Layout.lay, renderPretty_eq (depth + 1) item,
        prettyMembers_eq depth members]
      simp [Layout.indented]
  | .null => rfl
  | .bool _ => rfl
  | .int _ => rfl
  | .float _ => rfl
  | .string _ => rfl
  | .array [] => rfl
  | .object [] => rfl

theorem prettyItems_eq (depth : Nat) :
    ∀ items : List Json, prettyItems depth items = Layout.indented.layItems depth items
  | [] => rfl
  | item :: items => by
      rw [prettyItems, Layout.layItems, renderPretty_eq (depth + 1) item,
        prettyItems_eq depth items]
      rfl

theorem prettyMembers_eq (depth : Nat) :
    ∀ members : List (String × Json),
      prettyMembers depth members = Layout.indented.layMembers depth members
  | [] => rfl
  | (name, item) :: members => by
      rw [prettyMembers, Layout.layMembers, renderPretty_eq (depth + 1) item,
        prettyMembers_eq depth members]
      simp [Layout.indented]

end

end IccProfile.Json
