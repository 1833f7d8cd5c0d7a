/-!
# EnumCodec.Text.Escape

**Text inside a double-quoted literal.** A backslash is doubled, a double quote gets a backslash
before it, and a control character or line separator becomes a short escape or a `\uXXXX` escape
with lowercase digits. Python and C# read each of these forms alike.
-/

namespace EnumCodec.Text

/-- A hexadecimal digit, in lower case. -/
def hexDigit (n : Nat) : Char :=
  if n < 10 then Char.ofNat (48 + n) else Char.ofNat (87 + n)

/-- The `width` lowest hexadecimal digits of a number. -/
def hexDigits : (width : Nat) → Nat → List Char
  | 0, _ => []
  | width + 1, n => hexDigits width (n / 16) ++ [hexDigit (n % 16)]

/-- Does the character break a literal that must stay on one line? These are the control characters
of ASCII, the next-line character and the two separators of lines and paragraphs. -/
def breaksLiteral (c : Char) : Bool :=
  let n := c.toNat
  n < 32 || n == 127 || n == 0x85 || n == 0x2028 || n == 0x2029

/-- The form of one character inside a double-quoted literal. -/
def escapeChar (c : Char) : List Char :=
  if c = '\\' then ['\\', '\\']
  else if c = '"' then ['\\', '"']
  else if c = '\n' then ['\\', 'n']
  else if c = '\r' then ['\\', 'r']
  else if c = '\t' then ['\\', 't']
  else if breaksLiteral c then '\\' :: 'u' :: hexDigits 4 c.toNat
  else [c]

/-- The body of the double-quoted literal for a text. -/
def escapeChars (text : List Char) : List Char :=
  text.flatMap escapeChar

/-- The body of the double-quoted literal for a string. -/
def escape (text : String) : String :=
  String.ofList (escapeChars text.toList)

@[simp] theorem escapeChars_nil : escapeChars [] = [] := rfl

@[simp] theorem escapeChars_cons (c : Char) (text : List Char) :
    escapeChars (c :: text) = escapeChar c ++ escapeChars text := rfl

theorem escapeChars_singleton (c : Char) : escapeChars [c] = escapeChar c :=
  List.append_nil _

theorem escapeChars_append (text more : List Char) :
    escapeChars (text ++ more) = escapeChars text ++ escapeChars more :=
  List.flatMap_append

@[simp] theorem toList_escape (text : String) :
    (escape text).toList = escapeChars text.toList := by
  simp [escape]

end EnumCodec.Text
