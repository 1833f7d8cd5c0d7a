import EnumCodec.Source.Token

/-!
# EnumCodec.Source.Token.Number

**Numeric literals.** Digits may be grouped by single underscores. An integer has a base prefix or
no leading zero, unless it is zero; a number with a point or an exponent is a floating-point number,
and a final `j` makes it imaginary. A literal may not run into a name, except that one of the keywords
that can follow a value may stand right behind it.
-/

namespace EnumCodec.Source

open Number

/-- A character that a name may consist of, as far as the first 128 characters tell. -/
def isNameChar (c : Char) : Bool :=
  ('a' ≤ c && c ≤ 'z') || ('A' ≤ c && c ≤ 'Z') || ('0' ≤ c && c ≤ '9') || c == '_' ||
    128 ≤ c.toNat

/-- A decimal digit. -/
def isDecimal (c : Char) : Bool := '0' ≤ c && c ≤ '9'

/-- The value of a digit of base sixteen. -/
def digitValue? (c : Char) : Option Nat :=
  if '0' ≤ c ∧ c ≤ '9' then some (c.toNat - 48)
  else if 'a' ≤ c ∧ c ≤ 'f' then some (c.toNat - 87)
  else if 'A' ≤ c ∧ c ≤ 'F' then some (c.toNat - 55)
  else none

/-- Is the character a digit of the base? -/
def isDigitOf (base : Nat) (c : Char) : Bool :=
  match digitValue? c with
  | some value => value < base
  | none => false

/-- The number that digits of a base give. -/
def valueOfDigits (base : Nat) (digits : List Char) : Nat :=
  digits.foldl (fun n c => n * base + (digitValue? c).getD 0) 0

/-- Digits with single underscores before or between them, and what follows; an underscore that no
digit follows is an error. -/
def digitGroups (isDigit : Char → Bool) : List Char → Option (List Char × List Char)
  | [] => some ([], [])
  | '_' :: c :: rest =>
    if isDigit c then (digitGroups isDigit rest).map fun (ds, after) => (c :: ds, after) else none
  | ['_'] => none
  | c :: rest =>
    if isDigit c then (digitGroups isDigit rest).map fun (ds, after) => (c :: ds, after)
    else some ([], c :: rest)

/-- The beginnings of the keywords that may follow a number without a blank. -/
def afterNumber : List (List Char) :=
  ["and".toList, "else".toList, "for".toList, "if".toList, "in".toList, "is".toList,
   "not".toList, "or".toList]

/-- May a number end before this text? -/
def endsNumber (rest : List Char) : Bool :=
  match rest with
  | [] => true
  | c :: _ => !isNameChar c || afterNumber.any (·.isPrefixOf rest)

/-- An integer behind its base prefix. -/
def prefixedInteger (base : Nat) (text : List Char) : Option (NumberToken × List Char) := do
  let (digits, rest) ← digitGroups (isDigitOf base) text
  if digits.isEmpty || !endsNumber rest || (rest.head?.map isDecimal).getD false then none
  else return (.int (valueOfDigits base digits), rest)

/-- The exponent of a number, if there is one, and what follows. The letter belongs to the number
only if digits follow it or its sign; a letter without digits must begin a keyword. -/
def exponentPart (text : List Char) : Option (Option Int × List Char) :=
  match text with
  | e :: rest =>
    if e = 'e' ∨ e = 'E' then
      let (signed, negative, digits) :=
        match rest with
        | '+' :: more => (true, false, more)
        | '-' :: more => (true, true, more)
        | _ => (false, false, rest)
      if (digits.head?.map isDecimal).getD false then do
        let (ds, after) ← digitGroups isDecimal digits
        let n : Int := valueOfDigits 10 ds
        return (some (if negative then -n else n), after)
      else if signed || !endsNumber text then none
      else some (none, text)
    else some (none, text)
  | [] => some (none, [])

/-- The value of a number from its parts; an integer may not begin with a zero unless it is zero, nor
have more than 4300 digits. -/
def decimalNumber (whole : List Char) (fraction : Option (List Char)) (exponent : Option Int)
    (isImaginary : Bool) : Option NumberToken :=
  let digits := whole ++ fraction.getD []
  let value := valueOfDigits 10 digits
  let float := Binary64.ofDecimal false value (exponent.getD 0 - (fraction.getD []).length)
  if isImaginary then some (.imaginary float)
  else if fraction.isSome || exponent.isSome then some (.float float)
  else if value ≠ 0 ∧ (whole.head? = some '0' ∨ 4300 < whole.length) then none
  else some (.int value)

/-- A number from its digits on; `whole` holds those before the point. -/
def afterWhole (whole text : List Char) : Option (NumberToken × List Char) := do
  let (fraction, rest) ←
    match text with
    | '.' :: more =>
      if (more.head?.map isDecimal).getD false then
        (digitGroups isDecimal more).map fun (ds, after) => (some ds, after)
      else some (some [], more)
    | _ => some (none, text)
  let (exponent, rest) ← exponentPart rest
  let (isImaginary, rest) :=
    match rest with
    | 'j' :: more => (true, more)
    | 'J' :: more => (true, more)
    | _ => (false, rest)
  if endsNumber rest then
    return (← decimalNumber whole fraction exponent isImaginary, rest)
  else none

/-- A numeric literal at the start of a text that begins with a digit, or with a point and a
digit. -/
def readNumber (text : List Char) : Option (NumberToken × List Char) :=
  match text with
  | '0' :: 'x' :: rest => prefixedInteger 16 rest
  | '0' :: 'X' :: rest => prefixedInteger 16 rest
  | '0' :: 'o' :: rest => prefixedInteger 8 rest
  | '0' :: 'O' :: rest => prefixedInteger 8 rest
  | '0' :: 'b' :: rest => prefixedInteger 2 rest
  | '0' :: 'B' :: rest => prefixedInteger 2 rest
  | '.' :: _ => afterWhole [] text
  | _ => do
    let (whole, rest) ← digitGroups isDecimal text
    afterWhole whole rest

end EnumCodec.Source
