import IccProfile.Json.Printer

/-!
# Strings in JSON texts

A written string is read up to its closing quote (`stringParts?_renderString`), and its parts
resolve to the string (`text?_partsOf`), whatever characters it has.
-/

set_option autoImplicit false

namespace IccProfile.Json

variable {c : Char}

/-- The part of a string that a character is written as: a control character without a letter
of its own is written as a unit. -/
def partOf (c : Char) : StringPart :=
  if c.toNat < 0x20 ∧ c ∉ ['\x08', '\t', '\n', '\x0c', '\r'] then .unit c.toNat else .char c

/-- The parts of a string as it is written. -/
def partsOf (s : String) : List StringPart := s.toList.map partOf

theorem hexValue?_hexDigit {n : Nat} (h : n < 16) :
    Bytes.hexValue? (Bytes.hexDigit n) = some n := by
  have hdigits : ∀ n < 16, Bytes.hexValue? (Bytes.hexDigit n) = some n := by decide
  exact hdigits n h

theorem hexUnit?_control {n : Nat} (h : n < 0x20) :
    hexUnit? '0' '0' (Bytes.hexDigit (n / 16)) (Bytes.hexDigit (n % 16)) = some n := by
  have hzero : Bytes.hexValue? '0' = some 0 := by decide
  have hjoin : n / 16 * 16 + n % 16 = n := Nat.div_add_mod' n 16
  simp [hexUnit?, hzero, hexValue?_hexDigit (show n / 16 < 16 by omega),
    hexValue?_hexDigit (Nat.mod_lt n (by decide)), hjoin]

/-- A written character is read as its part. -/
theorem stringParts?_renderChar (c : Char) {rest tail : List Char} {parts : List StringPart}
    (h : stringParts? rest = some (parts, tail)) :
    stringParts? (renderChar c ++ rest) = some (partOf c :: parts, tail) := by
  rw [renderChar.eq_def]
  split
  case h_8 hquote hbackslash hb ht hn hf hr =>
    split
    -- a control character without a letter
    · next hcontrol =>
        have hletter : c ∉ ['\x08', '\t', '\n', '\x0c', '\r'] := by
          intro hmem
          simp only [List.mem_cons, List.not_mem_nil, or_false] at hmem
          rcases hmem with h | h | h | h | h
          · exact hb h
          · exact ht h
          · exact hn h
          · exact hf h
          · exact hr h
        have hpart : partOf c = .unit c.toNat := if_pos ⟨hcontrol, hletter⟩
        simp [stringParts?, hexUnit?_control hcontrol, hpart, h]
    -- a character that stands for itself
    · next hcontrol =>
        have hpart : partOf c = .char c := if_neg fun h => hcontrol h.1
        rw [List.singleton_append, stringParts?, if_neg hcontrol, hpart, h]
        · rfl
        · exact hquote
        · intro w x y z more heq
          exact absurd heq hbackslash
        · intro d more heq
          exact absurd heq hbackslash
  all_goals simp [stringParts?, escaped?, partOf, h]

/-- A written string is read up to its closing quote. -/
theorem stringParts?_renderString (s : String) (rest : List Char) :
    stringParts? (s.toList.flatMap renderChar ++ '"' :: rest) = some (partsOf s, rest) := by
  rw [partsOf]
  induction s.toList with
  | nil => rfl
  | cons c more ih =>
      rw [List.flatMap_cons, List.append_assoc]
      exact stringParts?_renderChar c ih

theorem resolve?_partOf (c : Char) (rest : List StringPart) :
    resolve? (partOf c :: rest) = (resolve? rest).map (c :: ·) := by
  rw [partOf]
  split
  · next hcontrol =>
      have hlow : ¬ (0xDC00 ≤ c.toNat ∧ c.toNat < 0xE000) := by omega
      have hhigh : ¬ (0xD800 ≤ c.toNat ∧ c.toNat < 0xDC00) := by omega
      rw [resolve?.eq_def]
      simp only [if_neg hlow, if_neg hhigh, Char.ofNat_toNat]
  · rfl

/-- What was written resolves to the string. -/
theorem text?_partsOf (s : String) : text? (partsOf s) = some s := by
  have hresolve : resolve? (partsOf s) = some s.toList := by
    rw [partsOf]
    induction s.toList with
    | nil => rfl
    | cons c more ih => rw [List.map_cons, resolve?_partOf, ih, Option.map_some]
  rw [text?, hresolve, Option.map_some, String.ofList_toList]

end IccProfile.Json
