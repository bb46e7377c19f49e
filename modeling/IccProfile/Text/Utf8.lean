import IccProfile.Bytes

/-!
# UTF-8

The stored length and the stored bytes of a text are those of its UTF-8 form.
-/

set_option autoImplicit false

namespace IccProfile.Text

/-- The UTF-8 form of a text. -/
def utf8 (s : String) : Bytes := s.toList.flatMap String.utf8EncodeChar

/-- The text that has the given UTF-8 form. -/
def ofUtf8? (bs : Bytes) : Option String := String.fromUTF8? ⟨bs.toArray⟩

end IccProfile.Text
