import IccProfile.Proofs.Files.Path
import IccProfile.Proofs.Number.Distance

/-!
# Matching values

Pieces of values match alike from either side (`pieceMatches_comm`), and pieces that match
as a whole match where parts count as well (`pieceMatches_of_whole`). A value is the list
of its pieces, and two lists with a comma between them are one list (`valuePieces_append`).
So values match themselves and one another, whatever their pieces are read as
(`valueMatches_tolerance`).
-/

set_option autoImplicit false

namespace IccProfile.Matching

variable {delta : Float} {subString : Bool} {left right : List Char}

/-! ## Pieces -/

theorem overlap_comm (left right : List Char) : overlap left right = overlap right left := by
  rw [overlap, overlap, Bool.and_comm (decide (left ≠ [])), Bool.or_comm]

theorem sameNumber_comm (left right : List Char) (delta : Float) :
    sameNumber left right delta = sameNumber right left delta := by
  unfold sameNumber
  -- floating point numbers are compared unless both pieces are integers
  cases Number.int64? left with
  | some m =>
      cases Number.int64? right with
      | some n => exact decide_eq_decide.mpr eq_comm
      | none => cases Number.float? left <;> cases Number.float? right <;> simp only [near_comm]
  | none =>
      cases Number.int64? right <;> cases Number.float? left <;> cases Number.float? right <;>
        simp only [near_comm]

theorem pieceMatches_comm (left right : List Char) :
    pieceMatches delta subString left right = pieceMatches delta subString right left := by
  rw [pieceMatches, pieceMatches, overlap_comm, sameNumber_comm, decide_eq_decide.mpr eq_comm]

/-- Pieces that match as a whole match in any case. -/
theorem pieceMatches_of_whole (h : pieceMatches delta false left right = true) :
    pieceMatches delta subString left right = true := by
  rw [pieceMatches, Bool.false_and, Bool.or_false] at h
  rw [pieceMatches, Bool.or_right_comm, h, Bool.true_or]

/-! ## Lists of pieces -/

theorem valuePieces_append (a b : String) :
    valuePieces (a ++ "," ++ b) = valuePieces a ++ valuePieces b := by
  rw [valuePieces, String.toList_append, String.toList_append, List.append_assoc]
  exact (congrArg _ (Text.pieces_append ',' a.toList b.toList)).trans List.map_append

theorem valueMatches_iff {v w : String} :
    valueMatches v w delta subString = true ↔
      ∃ left ∈ valuePieces v, ∃ right ∈ valuePieces w,
        pieceMatches delta subString left right = true := by
  simp only [valueMatches, List.any_eq_true]

/-- A value matches itself. -/
theorem valueMatches_self (value : String) (delta : Float) (subString : Bool) :
    valueMatches value value delta subString = true := by
  -- there is a piece, and it is equal to itself
  have hpieces : valuePieces value ≠ [] := by
    rw [valuePieces, ne_eq, List.map_eq_nil_iff]
    exact Text.pieces_ne_nil ',' value.toList
  obtain ⟨piece, hpiece⟩ := List.exists_mem_of_ne_nil _ hpieces
  have hself : pieceMatches delta subString piece piece = true := by
    rw [pieceMatches, decide_eq_true rfl, Bool.true_or, Bool.true_or]
  exact valueMatches_iff.mpr ⟨piece, hpiece, piece, hpiece, hself⟩

theorem valueMatches_of_swap {v w : String} (h : valueMatches v w delta subString = true) :
    valueMatches w v delta subString = true := by
  obtain ⟨left, hleft, right, hright, hpieces⟩ := valueMatches_iff.mp h
  rw [pieceMatches_comm] at hpieces
  exact valueMatches_iff.mpr ⟨right, hright, left, hleft, hpieces⟩

theorem valueMatches_of_whole {v w : String} (h : valueMatches v w delta false = true) :
    valueMatches v w delta subString = true := by
  obtain ⟨left, hleft, right, hright, hpieces⟩ := valueMatches_iff.mp h
  exact valueMatches_iff.mpr ⟨left, hleft, right, hright, pieceMatches_of_whole hpieces⟩

/-- Values match themselves, and alike from either side. They match where parts of pieces count
when they match without, and a list matches when one of the lists that it is made of does. -/
theorem valueMatches_tolerance (v w a b : String) (delta : Float) (subString : Bool) :
    valueMatches v v delta subString = true ∧
      valueMatches v w delta subString = valueMatches w v delta subString ∧
      (valueMatches v w delta false = true → valueMatches v w delta true = true) ∧
      valueMatches (a ++ "," ++ b) w delta subString =
        (valueMatches a w delta subString || valueMatches b w delta subString) := by
  refine ⟨valueMatches_self v delta subString, ?_, valueMatches_of_whole, ?_⟩
  · exact Bool.eq_iff_iff.mpr ⟨valueMatches_of_swap, valueMatches_of_swap⟩
  · rw [valueMatches, valuePieces_append, List.any_append]
    rfl

/-- A list matches a part of one of its pieces only where parts count. -/
example : valueMatches "X1, CG2420" "CG24" 0.0005 true = true ∧
    valueMatches "X1, CG2420" "CG24" 0.0005 false = false := by
  decide +kernel

end IccProfile.Matching
