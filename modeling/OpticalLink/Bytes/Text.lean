import OpticalLink.Bytes.Basic

/-!
# Text as bytes

Texts are stored in the variable-length encoding of one to four bytes a
character.
-/

namespace OpticalLink.Bytes

/-- The bytes of a text. -/
def ofText (text : String) : Bytes := text.toUTF8.data.toList

/-- The text of some bytes, if they encode one. -/
def toText? (bytes : Bytes) : Option String := String.fromUTF8? ⟨bytes.toArray⟩

/-- The bytes of a text give the text back. -/
@[simp] theorem toText?_ofText (text : String) : toText? (ofText text) = some text := by
  simp only [toText?, ofText, String.fromUTF8?, Array.toArray_toList]
  exact dif_pos text.isValidUTF8

end OpticalLink.Bytes
