import EnumCodec.Source.Token.Number
import EnumCodec.Text.CharacterName
import EnumCodec.Text.CodePoint

/-!
# EnumCodec.Source.Token.Text

**String literals.** A literal ends at its closing quote, which a backslash before it does not close,
and only one in triple quotes goes over several lines. In the body of a literal that is not raw,
escapes stand for single code points or for nothing; a backslash that begins no escape stands for
itself. Bytes are spelled with ASCII characters alone.
-/

namespace EnumCodec.Source

open Text (CodePoint)

/-! ### Where a literal ends -/

/-- The body of a literal in single quotes, and what follows the closing quote. -/
def shortBody (quote : Char) : List Char → Option (List Char × List Char)
  | [] => none
  | '\\' :: c :: rest => (shortBody quote rest).map fun (body, after) => ('\\' :: c :: body, after)
  | c :: rest =>
    if c = quote then some ([], rest)
    else if c = '\n' then none
    else (shortBody quote rest).map fun (body, after) => (c :: body, after)

/-- The body of a literal in triple quotes, and what follows the closing quotes. -/
def longBody (quote : Char) : List Char → Option (List Char × List Char)
  | [] => none
  | '\\' :: c :: rest => (longBody quote rest).map fun (body, after) => ('\\' :: c :: body, after)
  | c :: rest =>
    if c = quote ∧ rest.take 2 = [quote, quote] then some ([], rest.drop 2)
    else (longBody quote rest).map fun (body, after) => (c :: body, after)

/-- The body of a literal from its opening quote on, and what follows it. -/
def literalBody : List Char → Option (List Char × List Char)
  | [] => none
  | quote :: rest =>
    if rest.take 2 = [quote, quote] then longBody quote (rest.drop 2)
    else shortBody quote rest

/-! ### Escapes -/

/-- The value of hexadecimal digits, if there are `count` of them. -/
def hexValue? (count : Nat) (text : List Char) : Option Nat :=
  let digits := text.take count
  if digits.length = count ∧ digits.all (isDigitOf 16) then some (valueOfDigits 16 digits)
  else none

/-- The digits of an octal escape, of which there are at most three. -/
def octalDigits (text : List Char) : List Char :=
  (text.take 3).takeWhile (isDigitOf 8)

/-- The escapes that both texts and byte strings know: what an escape stands for and how many
characters behind the backslash belong to it. -/
def sharedEscape? : Char → Option (List Char)
  | '\n' => some []
  | '\\' => some ['\\']
  | '\'' => some ['\'']
  | '"' => some ['"']
  | 'a' => some ['\x07']
  | 'b' => some ['\x08']
  | 'f' => some ['\x0c']
  | 'n' => some ['\n']
  | 'r' => some ['\r']
  | 't' => some ['\t']
  | 'v' => some ['\x0b']
  | _ => none

/-- The escape of a text that follows a backslash: what it stands for, and how many characters
belong to it. -/
def textEscape (text : List Char) : Option (List CodePoint × Nat) :=
  match text with
  | [] => some ([.char '\\'], 0)
  | c :: rest =>
    match sharedEscape? c with
    | some chars => some (chars.map .char, 1)
    | none =>
      if isDigitOf 8 c then
        let digits := octalDigits text
        some ([.char (Char.ofNat (valueOfDigits 8 digits))], digits.length)
      else if c = 'x' then
        (hexValue? 2 rest).map fun code => ([.char (Char.ofNat code)], 3)
      else if c = 'u' then do
        let code ← hexValue? 4 rest
        return ([← CodePoint.ofNat? code], 5)
      else if c = 'U' then do
        let code ← hexValue? 8 rest
        return ([← CodePoint.ofNat? code], 9)
      else if c = 'N' then
        match rest with
        | '\x7b' :: more =>
          let name := more.takeWhile (· != '\x7d')
          if name.length < more.length then
            (Text.characterNamed? name).map fun d => ([.char d], name.length + 3)
          else none
        | _ => none
      else some ([.char '\\'], 0)

/-- The escape of a byte string that follows a backslash. -/
def byteEscape (text : List Char) : Option (List Char × Nat) :=
  match text with
  | [] => some (['\\'], 0)
  | c :: rest =>
    match sharedEscape? c with
    | some chars => some (chars, 1)
    | none =>
      if isDigitOf 8 c then
        let digits := octalDigits text
        some ([Char.ofNat (valueOfDigits 8 digits % 256)], digits.length)
      else if c = 'x' then
        (hexValue? 2 rest).map fun code => ([Char.ofNat code], 3)
      else some (['\\'], 0)

/-- What a body stands for under a rule for escapes, where a plain character stands for itself; the
first `skip` characters belong to an escape that is done. -/
def unescape {α : Type} (plain : Char → α) (escape : List Char → Option (List α × Nat)) :
    (skip : Nat) → List Char → Option (List α)
  | _, [] => some []
  | skip + 1, _ :: rest => unescape plain escape skip rest
  | 0, c :: rest =>
    if c = '\\' then
      match escape rest with
      | some (parts, used) => (unescape plain escape used rest).map (parts ++ ·)
      | none => none
    else (unescape plain escape 0 rest).map (plain c :: ·)

/-- The code points that a body stands for. -/
def bodyCodes (raw : Bool) (body : List Char) : Option (List CodePoint) :=
  if raw then some (body.map .char) else unescape .char textEscape 0 body

/-- The bytes that a body stands for. -/
def bodyBytes (raw : Bool) (body : List Char) : Option (List UInt8) :=
  if body.any (128 ≤ ·.toNat) then none
  else
    (if raw then some body else unescape id byteEscape 0 body).map
      (List.map fun c => UInt8.ofNat c.toNat)

end EnumCodec.Source
