import EnumCodec.Text.Newline

/-!
# EnumCodec.Text.Content

**Texts on their way to a file.** A file holds the UTF-8 form of a text. A text that holds halves of
surrogate pairs has none; it is kept as it is shown, with a mark.
-/

namespace EnumCodec

/-- A text that is to be written to a file. -/
@[ext]
structure Content where
  /-- The text, in which the replacement character stands for each half of a surrogate pair. -/
  shown : String
  /-- Is every code point of the text a character? -/
  isWhole : Bool := true
deriving DecidableEq, Repr, Inhabited

namespace Content

instance : Coe String Content := ⟨fun text => { shown := text }⟩

/-- The UTF-8 form of a text. -/
def encode? (content : Content) : Option ByteArray :=
  if content.isWhole then some content.shown.toUTF8 else none

/-- What a new file holds once a text has been written to it; of a text that has no form that is
nothing. -/
def bytes (content : Content) : ByteArray :=
  content.encode?.getD ByteArray.empty

/-- The text with one line feed at its end. -/
def endWithNewline (content : Content) : Content :=
  { content with shown := Text.endWithNewline content.shown }

theorem encode?_of_isWhole {content : Content} (whole : content.isWhole = true) :
    content.encode? = some content.bytes := by
  rw [bytes, encode?, if_pos whole, Option.getD_some]

theorem encode?_of_not_isWhole {content : Content} (broken : content.isWhole = false) :
    content.encode? = none := by
  rw [encode?, broken]
  rfl

end Content

end EnumCodec
