import EnumCodec.Json.Basic
import EnumCodec.Number.Shortest
import EnumCodec.Text.Escape

/-!
# EnumCodec.Json.Writer

**Writing a JSON document.** No blanks stand between the parts, and of the characters of a text only
quotes, backslashes and control characters are escaped. Half of a surrogate pair is always escaped.
-/

namespace EnumCodec.Json

open Text (CodePoint CodeText)

/-- The form of a character inside a JSON text. -/
def writeChar (c : Char) : List Char :=
  if c = '"' then ['\\', '"']
  else if c = '\\' then ['\\', '\\']
  else if c = '\n' then ['\\', 'n']
  else if c = '\r' then ['\\', 'r']
  else if c = '\t' then ['\\', 't']
  else if c = '\x08' then ['\\', 'b']
  else if c = '\x0c' then ['\\', 'f']
  else if c.toNat < 32 then '\\' :: 'u' :: Text.hexDigits 4 c.toNat
  else [c]

/-- The form of a code point inside a JSON text. -/
def writeCode : CodePoint → List Char
  | .char c => writeChar c
  | .half offset => '\\' :: 'u' :: Text.hexDigits 4 (CodePoint.half offset).toNat

/-- A text in quotes. -/
def writeText (text : CodeText) : String :=
  String.ofList ('"' :: text.codes.flatMap writeCode ++ ['"'])

/-- The text of a number; what is no finite number is a word. -/
def writeFloat : Number.Binary64 → String
  | .nan => "NaN"
  | .infinite negative => if negative then "-Infinity" else "Infinity"
  | x => x.text true

mutual

/-- The text of a value. -/
def write : Json → String
  | .null => "null"
  | .bool value => if value then "true" else "false"
  | .int value => toString value
  | .float value => writeFloat value
  | .string value => writeText (.plain value)
  | .broken value => writeText (.broken value)
  | .array items => "[" ++ ",".intercalate (writeItems items) ++ "]"
  | .object entries => "\x7b" ++ ",".intercalate (writeEntries entries) ++ "\x7d"
  | .brokenObject entries => "\x7b" ++ ",".intercalate (writeBrokenEntries entries) ++ "\x7d"

/-- The texts of values. -/
def writeItems : List Json → List String
  | [] => []
  | item :: rest => write item :: writeItems rest

/-- The texts of entries. -/
def writeEntries : List (String × Json) → List String
  | [] => []
  | (key, value) :: rest => (writeText (.plain key) ++ ":" ++ write value) :: writeEntries rest

/-- The texts of entries, whatever their keys are. -/
def writeBrokenEntries : List (CodeText × Json) → List String
  | [] => []
  | (key, value) :: rest => (writeText key ++ ":" ++ write value) :: writeBrokenEntries rest

end

end EnumCodec.Json
