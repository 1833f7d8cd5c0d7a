import EnumCodec.Text.Lowercase

/-!
# EnumCodec.Text.Camel

**An identifier that begins with a small letter.** Only the first character is lowered, on its own,
so that its neighbours do not matter; what it becomes may be two characters.
-/

namespace EnumCodec.Text

/-- The text with its first character lowered. -/
def lowerFirstChars : List Char → List Char
  | [] => []
  | c :: rest => lowercaseChars [c] ++ rest

/-- The string with its first character lowered. -/
def lowerFirst (text : String) : String :=
  String.ofList (lowerFirstChars text.toList)

end EnumCodec.Text
