import EnumCodec.Converter.Language

/-!
# EnumCodec.Converter.Layout

**What a converter's text depends on besides its conversion.** The comment that says what made it, the
helpers that can be left out, and the namespaces that are opened besides the usual ones. A text is a
list of lines, each of which a line feed ends.
-/

namespace EnumCodec

/-- The choices about the text of converters. -/
structure Layout where
  /-- The line that says what made the converter. -/
  comment : Option String := none
  /-- Are there helpers for whole JSON documents? -/
  jsonHelpers : Bool := true
  /-- The namespaces that are opened. -/
  usings : List String := []
  /-- Can the names of those namespaces be encoded? -/
  isWhole : Bool := true
deriving Repr, Inhabited

/-- The line that says which command made a converter. -/
def generationComment (language : Language) (commandLine : String) : String :=
  language.commentMark ++ " Generated by enum_json_converter v1.0.0 : " ++ commandLine

/-- The text of lines. -/
def textOfLines (lines : List String) : String :=
  String.join (lines.map (· ++ "\n"))

/-- A text between braces. -/
def braced (text : String) : String :=
  "\x7b" ++ text ++ "\x7d"

end EnumCodec
