import EnumCodec.Entries
import EnumCodec.Json.Basic

/-!
# EnumCodec.Json.Reader

**Reading a JSON document.** Blanks between the parts are spaces, tabs, carriage returns and line
feeds. A text may hold any character but the control characters. Two escapes that name the halves of a
surrogate pair stand for one character, and a half alone is kept as it is. The words `NaN`, `Infinity`
and `-Infinity` are numbers, a repeated key keeps its place and takes the last value, and a document
may not begin with a byte order mark.
-/

namespace EnumCodec.Json

open Number
open Text (CodePoint CodeText)

/-- Drops the blanks at the start. -/
def skipBlanks (text : List Char) : List Char :=
  text.dropWhile fun c => c == ' ' || c == '\t' || c == '\n' || c == '\r'

/-- The value of a hexadecimal digit. -/
def hexValue? (c : Char) : Option Nat :=
  if '0' ≤ c ∧ c ≤ '9' then some (c.toNat - 48)
  else if 'a' ≤ c ∧ c ≤ 'f' then some (c.toNat - 87)
  else if 'A' ≤ c ∧ c ≤ 'F' then some (c.toNat - 55)
  else none

/-- The number that four hexadecimal digits give, and what follows them. -/
def fourHexDigits : List Char → Option (Nat × List Char)
  | a :: b :: c :: d :: rest => do
    let a ← hexValue? a
    let b ← hexValue? b
    let c ← hexValue? c
    let d ← hexValue? d
    return (((a * 16 + b) * 16 + c) * 16 + d, rest)
  | _ => none

/-- The character of a one-letter escape. -/
def shortEscape? : Char → Option Char
  | '"' => some '"'
  | '\\' => some '\\'
  | '/' => some '/'
  | 'b' => some '\x08'
  | 'f' => some '\x0c'
  | 'n' => some '\n'
  | 'r' => some '\r'
  | 't' => some '\t'
  | _ => none

/-- The second half of a surrogate pair at the start of a text, and what follows its escape. -/
def secondHalf? : List Char → Option (Nat × List Char)
  | '\\' :: 'u' :: rest =>
    (fourHexDigits rest).filter fun (unit, _) => 0xDC00 ≤ unit ∧ unit ≤ 0xDFFF
  | _ => none

/-- The code point that a `\u` escape begins, given its four digits: the first half of a pair takes the
second one from what follows, if that is there. -/
def unicodeEscape (unit : Nat) (rest : List Char) : Option (CodePoint × List Char) :=
  match if 0xD800 ≤ unit ∧ unit ≤ 0xDBFF then secondHalf? rest else none with
  | some (second, after) =>
    some (.char (Char.ofNat (0x10000 + (unit - 0xD800) * 0x400 + (second - 0xDC00))), after)
  | none => (CodePoint.ofNat? unit).map (·, rest)

/-- The rest of a text behind its opening quote, with what follows the closing one. The code points
read so far are carried along in reverse; `fuel` bounds their number. -/
def readText : (fuel : Nat) → (read : List CodePoint) → List Char → Option (CodeText × List Char)
  | 0, _, _ => none
  | _ + 1, _, [] => none
  | _ + 1, read, '"' :: rest => some (.ofCodes read.reverse, rest)
  | fuel + 1, read, '\\' :: 'u' :: rest => do
    let (unit, after) ← fourHexDigits rest
    let (code, after) ← unicodeEscape unit after
    readText fuel (code :: read) after
  | fuel + 1, read, '\\' :: e :: rest =>
    match shortEscape? e with
    | some c => readText fuel (.char c :: read) rest
    | none => none
  | fuel + 1, read, c :: rest =>
    if c.toNat < 32 ∨ c = '\\' then none else readText fuel (.char c :: read) rest

/-- The number that decimal digits give. -/
def decimalValue (digits : List Char) : Nat :=
  digits.foldl (fun n c => n * 10 + (c.toNat - 48)) 0

/-- Splits the decimal digits off the start. -/
def spanDigits (text : List Char) : List Char × List Char :=
  text.span fun c => '0' ≤ c && c ≤ '9'

/-- An exponent behind its letter. -/
def readExponent (text : List Char) : Option (Int × List Char) :=
  let (negative, text) :=
    match text with
    | '-' :: rest => (true, rest)
    | '+' :: rest => (false, rest)
    | _ => (false, text)
  let (digits, rest) := spanDigits text
  if digits.isEmpty then none
  else
    let n : Int := decimalValue digits
    some (if negative then -n else n, rest)

/-- A number. A leading zero is a number of its own, and a point or an exponent letter belongs to the
number only if digits follow it. -/
def readNumber (text : List Char) : Option (Json × List Char) :=
  let (negative, text) :=
    match text with
    | '-' :: rest => (true, rest)
    | _ => (false, text)
  let (whole, rest) :=
    match text with
    | '0' :: rest => (['0'], rest)
    | _ => spanDigits text
  if whole.isEmpty then none
  else
    let (fraction, rest) :=
      match rest with
      | '.' :: more =>
        let (digits, after) := spanDigits more
        if digits.isEmpty then ([], rest) else (digits, after)
      | _ => ([], rest)
    let (exponent, rest) :=
      match rest with
      | c :: more =>
        if c = 'e' ∨ c = 'E' then
          match readExponent more with
          | some (n, after) => (some n, after)
          | none => (none, rest)
        else (none, rest)
      | [] => (none, rest)
    if fraction.isEmpty ∧ exponent.isNone then
      let n : Int := decimalValue whole
      some (.int (if negative then -n else n), rest)
    else
      some (.float (.ofDecimal negative (decimalValue (whole ++ fraction))
        (exponent.getD 0 - fraction.length)), rest)

/-- A word at the start of the text, and what follows it. -/
def readWord (word text : List Char) : Option (List Char) :=
  if word.isPrefixOf text then some (text.drop word.length) else none

mutual

/-- A value; `fuel` bounds the number of steps. -/
def readValue : (fuel : Nat) → List Char → Option (Json × List Char)
  | 0, _ => none
  | fuel + 1, text =>
    match text with
    | '"' :: rest => (readText (fuel + 1) [] rest).map fun (text, after) => (.ofText text, after)
    | '[' :: rest =>
      match skipBlanks rest with
      | ']' :: after => some (.array [], after)
      | _ => readItems fuel [] rest
    | '{' :: rest =>
      match skipBlanks rest with
      | '\x7d' :: after => some (.object [], after)
      | _ => readEntries fuel [] rest
    | _ =>
      (readWord "null".toList text).map (Json.null, ·)
        <|> (readWord "true".toList text).map (Json.bool true, ·)
        <|> (readWord "false".toList text).map (Json.bool false, ·)
        <|> (readWord "NaN".toList text).map (Json.float .nan, ·)
        <|> (readWord "Infinity".toList text).map (Json.float (.infinite false), ·)
        <|> (readWord "-Infinity".toList text).map (Json.float (.infinite true), ·)
        <|> readNumber text

/-- The items of an array from the next one on; those before it are given in reverse. -/
def readItems : (fuel : Nat) → List Json → List Char → Option (Json × List Char)
  | 0, _, _ => none
  | fuel + 1, items, text => do
    let (item, rest) ← readValue fuel (skipBlanks text)
    match skipBlanks rest with
    | ',' :: more => readItems fuel (item :: items) more
    | ']' :: after => some (.array (item :: items).reverse, after)
    | _ => none

/-- The entries of an object from the next one on, put to those before it. -/
def readEntries : (fuel : Nat) → List (CodeText × Json) → List Char → Option (Json × List Char)
  | 0, _, _ => none
  | fuel + 1, entries, text =>
    match skipBlanks text with
    | '"' :: rest => do
      let (key, rest) ← readText (fuel + 1) [] rest
      match skipBlanks rest with
      | ':' :: more =>
        let (value, rest) ← readValue fuel (skipBlanks more)
        let entries := Entries.put entries key value
        match skipBlanks rest with
        | ',' :: more => readEntries fuel entries more
        | '\x7d' :: after => some (.ofEntries entries, after)
        | _ => none
      | _ => none
    | _ => none

end

/-- The value of a document, which fills the text up to blanks. -/
def read? (text : String) : Option Json :=
  let chars := text.toList
  match readValue (chars.length + 1) (skipBlanks chars) with
  | some (value, rest) => if (skipBlanks rest).isEmpty then some value else none
  | none => none

end EnumCodec.Json
