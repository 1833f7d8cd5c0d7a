import EnumCodec.Text.Escape
import EnumCodec.Text.Ranges
import EnumCodec.Text.PrintableTable

/-!
# EnumCodec.Text.Quoted

**Texts and byte strings as literals in messages.** A text stands in single quotes, unless it holds a
single quote and no double quote. The quote and the backslash get a backslash, three control
characters have short escapes, and a character without a visible form is written with two, four or
eight hexadecimal digits.
-/

namespace EnumCodec.Text

/-- Has the character a visible form? ASCII is decided without the table. -/
def isPrintable (c : Char) : Bool :=
  if c.toNat < 128 then 32 ≤ c.toNat && c.toNat < 127
  else !inRanges unprintableRanges c.toNat

/-- The quote that encloses a text: the single one, unless only that one occurs in it. -/
def enclosingQuote (text : List Char) : Char :=
  if text.contains '\'' && !text.contains '"' then '"' else '\''

/-- The form of a character between quotes. -/
def quotedChar (quote c : Char) : List Char :=
  if c = quote || c = '\\' then ['\\', c]
  else if c = '\n' then ['\\', 'n']
  else if c = '\r' then ['\\', 'r']
  else if c = '\t' then ['\\', 't']
  else if isPrintable c then [c]
  else if c.toNat < 0x100 then '\\' :: 'x' :: hexDigits 2 c.toNat
  else if c.toNat < 0x10000 then '\\' :: 'u' :: hexDigits 4 c.toNat
  else '\\' :: 'U' :: hexDigits 8 c.toNat

/-- A text in quotes. -/
def quotedChars (text : List Char) : List Char :=
  let quote := enclosingQuote text
  quote :: text.flatMap (quotedChar quote) ++ [quote]

/-- A string in quotes. -/
def quoted (text : String) : String :=
  String.ofList (quotedChars text.toList)

/-- The form of a byte between quotes: ASCII as in a text, all else with two digits. -/
def quotedByte (quote : Char) (byte : UInt8) : List Char :=
  if byte < 128 then quotedChar quote (Char.ofNat byte.toNat)
  else '\\' :: 'x' :: hexDigits 2 byte.toNat

/-- A byte string in quotes. -/
def quotedBytes (bytes : List UInt8) : String :=
  let chars := bytes.map fun byte => Char.ofNat byte.toNat
  let quote := enclosingQuote chars
  String.ofList ('b' :: quote :: bytes.flatMap (quotedByte quote) ++ [quote])

end EnumCodec.Text
