import EnumCodec.Source.Token.Text

/-!
# EnumCodec.Source.Token.Field

**Replacement fields of formatted texts.** A field stands in braces: an expression, which may hold
neither a backslash nor a comment sign, then optionally an equals sign, a conversion, and a colon
with a format that may hold fields of its own, one level deep. Doubled braces outside the formats are
plain text. The expressions are kept as source text, for the grammar to read.
-/

namespace EnumCodec.Source

/-- Does the bracket close the one that is open? -/
def closes (opening closing : Char) : Bool :=
  (opening == '(' && closing == ')') || (opening == '[' && closing == ']') ||
    (opening == '\x7b' && closing == '\x7d')

/-- The expression of a field, up to the character that ends it. `quote` is the literal that the
text is inside of, with a mark for triple quotes; `nest` are the open brackets; the first `skip`
characters are taken as they are. -/
def fieldExpression (skip : Nat) (quote : Option (Char × Bool)) (nest : List Char) :
    List Char → Option (List Char × List Char)
  | [] => none
  | c :: rest =>
    let goOn := fun skip quote nest =>
      (fieldExpression skip quote nest rest).map fun (expr, after) => (c :: expr, after)
    match skip with
    | skip + 1 => goOn skip quote nest
    | 0 =>
      if c = '\\' then none
      else
        match quote with
        | some (q, triple) =>
          if c = q ∧ triple = false then goOn 0 none nest
          else if c = q ∧ rest.take 2 = [q, q] then goOn 2 none nest
          else goOn 0 quote nest
        | none =>
          if c = '\'' ∨ c = '"' then
            if rest.take 2 = [c, c] then goOn 2 (some (c, true)) nest
            else goOn 0 (some (c, false)) nest
          else if c = '(' ∨ c = '[' ∨ c = '\x7b' then
            if nest.length < 200 then goOn 0 none (c :: nest) else none
          else if c = '#' then none
          else if nest.isEmpty ∧ (c = '!' ∨ c = '=' ∨ c = '<' ∨ c = '>') ∧ rest.head? = some '=' then
            goOn 1 none nest
          else if nest.isEmpty ∧ (c = '!' ∨ c = ':' ∨ c = '\x7d' ∨ c = '=') then
            some ([], c :: rest)
          else if c = ')' ∨ c = ']' ∨ c = '\x7d' then
            match nest with
            | opening :: outer => if closes opening c then goOn 0 none outer else none
            | [] => none
          else goOn 0 none nest

/-- Does an expression consist of blanks alone? -/
def isBlankExpression (expr : List Char) : Bool :=
  expr.all fun c => c == ' ' || c == '\t' || c == '\n' || c == '\x0c'

/-- Skips an equals sign behind an expression, and the blanks behind it. -/
def skipEqualsSign : List Char → List Char
  | '=' :: rest => rest.dropWhile fun c => c == ' ' || (9 ≤ c.toNat && c.toNat ≤ 13)
  | text => text

/-- Skips a conversion, which is one of three letters. -/
def skipConversion : List Char → Option (List Char)
  | '!' :: c :: rest => if c = 's' ∨ c = 'r' ∨ c = 'a' then some rest else none
  | ['!'] => none
  | text => some text

/-- The characters up to the next brace that counts, and the text from it on. A doubled brace counts
only inside a format, and a name escape hides its braces. The characters of a doubled brace and those
of an escape are skipped over. -/
def plainPart (raw inFormat : Bool) : (skip : Nat) → (named : Bool) → List Char →
    List Char × List Char
  | _, _, [] => ([], [])
  | skip + 1, named, c :: rest =>
    let (plain, after) := plainPart raw inFormat skip named rest
    (c :: plain, after)
  | 0, true, c :: rest =>
    let (plain, after) := plainPart raw inFormat 0 (c != '\x7d') rest
    (c :: plain, after)
  | 0, false, c :: rest =>
    let goOn := fun skip named =>
      let (plain, after) := plainPart raw inFormat skip named rest
      (c :: plain, after)
    if raw = false ∧ c = '\\' then
      if rest.take 2 = ['N', '\x7b'] then goOn 2 true
      else if rest.head? = some '\x7b' ∨ rest.head? = some '\x7d' then goOn 0 false
      else goOn 1 false
    else if (c = '\x7b' ∨ c = '\x7d') ∧ inFormat = false ∧ rest.head? = some c then goOn 1 false
    else if c = '\x7b' ∨ c = '\x7d' then ([], c :: rest)
    else goOn 0 false

mutual

/-- The fields of a formatted text, or of a format at a depth above zero, and what follows its end:
the closing brace of the field that the format belongs to. -/
def formattedFields : (fuel : Nat) → (raw : Bool) → (depth : Nat) → List Char →
    Option (List (List Char) × List Char)
  | 0, _, _, _ => none
  | fuel + 1, raw, depth, text =>
    let (plain, rest) := plainPart raw (depth != 0) 0 false text
    if (bodyCodes raw plain).isNone then none
    else
      match rest with
      | [] => some ([], [])
      | '\x7b' :: more => do
        let (field, rest) ← replacementField fuel raw depth more
        let (fields, rest) ← formattedFields fuel raw depth rest
        return (field ++ fields, rest)
      | _ => if depth = 0 then none else some ([], rest)

/-- The expressions of one field behind its opening brace, its own first, and what follows its
closing brace. -/
def replacementField : (fuel : Nat) → (raw : Bool) → (depth : Nat) → List Char →
    Option (List (List Char) × List Char)
  | 0, _, _, _ => none
  | fuel + 1, raw, depth, text =>
    if 2 ≤ depth then none
    else do
      let (expr, rest) ← fieldExpression 0 none [] text
      if isBlankExpression expr then none
      else
        let rest ← skipConversion (skipEqualsSign rest)
        let (inner, rest) ←
          match rest with
          | ':' :: more => formattedFields fuel raw (depth + 1) more
          | _ => some ([], rest)
        match rest with
        | '\x7d' :: after => return (expr :: inner, after)
        | _ => none

end

/-- The expressions of the replacement fields of a formatted text, which must be read to its end. -/
def fieldsOf (raw : Bool) (body : List Char) : Option (List (List Char)) :=
  match formattedFields (2 * body.length + 2) raw 0 body with
  | some (fields, []) => some fields
  | _ => none

end EnumCodec.Source
