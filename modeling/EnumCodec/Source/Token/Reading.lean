import EnumCodec.Source.Token.Field
import EnumCodec.Text.Compatibility
import EnumCodec.Text.Identifier

/-!
# EnumCodec.Source.Token.Reading

**The tokens of a source text.** Line ends are line feeds, and the last line has one. Outside brackets
the indentation of a line decides where blocks begin and end; it is measured twice, with tabs that
reach to the next multiple of eight columns and with tabs of one column, and both measures must agree
on every comparison. Blank lines and comments give no tokens, a backslash at the end of a line joins
it to the next, and inside brackets line ends are blanks.
-/

namespace EnumCodec.Source

/-! ### Symbols -/

/-- The symbol at the start of a text, the longest that fits, and what follows it. -/
def readSymbol : List Char → Option (Symbol × List Char)
  | '.' :: '.' :: '.' :: rest => some (.ellipsis, rest)
  | '*' :: '*' :: '=' :: rest => some (.augmented .pow, rest)
  | '/' :: '/' :: '=' :: rest => some (.augmented .floorDiv, rest)
  | '<' :: '<' :: '=' :: rest => some (.augmented .shiftLeft, rest)
  | '>' :: '>' :: '=' :: rest => some (.augmented .shiftRight, rest)
  | '*' :: '*' :: rest => some (.operator .pow, rest)
  | '/' :: '/' :: rest => some (.operator .floorDiv, rest)
  | '<' :: '<' :: rest => some (.operator .shiftLeft, rest)
  | '>' :: '>' :: rest => some (.operator .shiftRight, rest)
  | '=' :: '=' :: rest => some (.equal, rest)
  | '!' :: '=' :: rest => some (.notEqual, rest)
  | '<' :: '>' :: rest => some (.lessGreater, rest)
  | '<' :: '=' :: rest => some (.lessEqual, rest)
  | '>' :: '=' :: rest => some (.greaterEqual, rest)
  | '-' :: '>' :: rest => some (.arrow, rest)
  | ':' :: '=' :: rest => some (.walrus, rest)
  | '+' :: '=' :: rest => some (.augmented .add, rest)
  | '-' :: '=' :: rest => some (.augmented .sub, rest)
  | '*' :: '=' :: rest => some (.augmented .mul, rest)
  | '/' :: '=' :: rest => some (.augmented .div, rest)
  | '%' :: '=' :: rest => some (.augmented .mod, rest)
  | '&' :: '=' :: rest => some (.augmented .bitAnd, rest)
  | '|' :: '=' :: rest => some (.augmented .bitOr, rest)
  | '^' :: '=' :: rest => some (.augmented .bitXor, rest)
  | '@' :: '=' :: rest => some (.augmented .matMul, rest)
  | '(' :: rest => some (.leftParen, rest)
  | ')' :: rest => some (.rightParen, rest)
  | '[' :: rest => some (.leftBracket, rest)
  | ']' :: rest => some (.rightBracket, rest)
  | '\x7b' :: rest => some (.leftBrace, rest)
  | '\x7d' :: rest => some (.rightBrace, rest)
  | ',' :: rest => some (.comma, rest)
  | ':' :: rest => some (.colon, rest)
  | ';' :: rest => some (.semicolon, rest)
  | '.' :: rest => some (.dot, rest)
  | '=' :: rest => some (.assign, rest)
  | '~' :: rest => some (.tilde, rest)
  | '<' :: rest => some (.less, rest)
  | '>' :: rest => some (.greater, rest)
  | '+' :: rest => some (.operator .add, rest)
  | '-' :: rest => some (.operator .sub, rest)
  | '*' :: rest => some (.operator .mul, rest)
  | '/' :: rest => some (.operator .div, rest)
  | '%' :: rest => some (.operator .mod, rest)
  | '@' :: rest => some (.operator .matMul, rest)
  | '&' :: rest => some (.operator .bitAnd, rest)
  | '|' :: rest => some (.operator .bitOr, rest)
  | '^' :: rest => some (.operator .bitXor, rest)
  | _ => none

/-- The open brackets behind a symbol, given those before it. At most 200 may be open, and each is
closed by its own kind. -/
def nestAfter (nest : List Symbol) (symbol : Symbol) : Option (List Symbol) :=
  match symbol with
  | .leftParen | .leftBracket | .leftBrace =>
    if nest.length < 200 then some (symbol :: nest) else none
  | .rightParen => if nest.head? = some .leftParen then some nest.tail else none
  | .rightBracket => if nest.head? = some .leftBracket then some nest.tail else none
  | .rightBrace => if nest.head? = some .leftBrace then some nest.tail else none
  | _ => some nest

/-! ### Words and literals -/

/-- The token of a word. -/
def wordToken (word : List Char) : Option TokenKind :=
  let text := String.ofList word
  if word.all (·.toNat < 128) then
    match Keyword.spellings.lookup text with
    | some keyword => some (.keyword keyword)
    | none =>
      some
        (if text = "match" then .soft .matchWord
         else if text = "case" then .soft .caseWord
         else if text = "_" then .soft .underscore
         else .name text)
  else if Text.isIdentifier word then
    some (.name (String.ofList (Text.compatibilityChars word)))
  else none

/-- The kinds of string literals. -/
structure LiteralForm where
  /-- Escapes are plain text. -/
  raw : Bool := false
  /-- The literal is a byte string. -/
  bytes : Bool := false
  /-- The literal has replacement fields. -/
  formatted : Bool := false

/-- The kind of literal that a word right before a quote announces. -/
def literalForm? (word : List Char) : Option LiteralForm :=
  match word with
  | [] => some {}
  | [c] =>
    if c = 'r' ∨ c = 'R' then some { raw := true }
    else if c = 'b' ∨ c = 'B' then some { bytes := true }
    else if c = 'f' ∨ c = 'F' then some { formatted := true }
    else if c = 'u' ∨ c = 'U' then some {}
    else none
  | [c, d] =>
    let raw := fun x => x = 'r' ∨ x = 'R'
    let bytes := fun x => x = 'b' ∨ x = 'B'
    let formatted := fun x => x = 'f' ∨ x = 'F'
    if (raw c ∧ bytes d) ∨ (bytes c ∧ raw d) then some { raw := true, bytes := true }
    else if (raw c ∧ formatted d) ∨ (formatted c ∧ raw d) then
      some { raw := true, formatted := true }
    else none
  | _ => none

/-- The value of a literal body. -/
def literalToken (form : LiteralForm) (body : List Char) : Option StringToken :=
  if form.bytes then (bodyBytes form.raw body).map .bytes
  else if form.formatted then (fieldsOf form.raw body).map .formatted
  else (bodyCodes form.raw body).map fun codes => .ofText (.ofCodes codes)

/-! ### Lines -/

/-- The indentation of a line, measured with wide and with narrow tabs. -/
structure Columns where
  wide : Nat := 0
  narrow : Nat := 0
deriving DecidableEq

/-- Measures the blanks at the start of a line: their columns, the number of line ends that a
backslash joined, and the text behind them. Once a backslash has joined a line that has blanks before
it, those blanks alone count. -/
def measure (columns : Columns) (fixed lines : Nat) :
    List Char → Option (Columns × Nat × List Char)
  | ' ' :: rest => measure ⟨columns.wide + 1, columns.narrow + 1⟩ fixed lines rest
  | '\t' :: rest => measure ⟨(columns.wide / 8 + 1) * 8, columns.narrow + 1⟩ fixed lines rest
  | '\x0c' :: rest => measure ⟨0, 0⟩ fixed lines rest
  | '\\' :: '\n' :: rest =>
    if rest.isEmpty then none
    else measure columns (if fixed = 0 then columns.wide else fixed) (lines + 1) rest
  | '\\' :: _ => none
  | rest => some (if fixed = 0 then columns else ⟨fixed, fixed⟩, lines, rest)

/-- Closes the blocks that stand further to the right than the line: the number of blocks closed and
those left. -/
def closeBlocks (columns : Columns) : List Columns → Nat × List Columns
  | [] => (0, [])
  | block :: outer =>
    if columns.wide < block.wide then
      let (closed, left) := closeBlocks columns outer
      (closed + 1, left)
    else (0, block :: outer)

/-- The block tokens at the start of a line and the blocks open behind them. -/
def blockTokens (columns : Columns) (blocks : List Columns) :
    Option (List TokenKind × List Columns) :=
  let current := blocks.headD {}
  if columns.wide = current.wide then
    if columns.narrow = current.narrow then some ([], blocks) else none
  else if current.wide < columns.wide then
    if current.narrow < columns.narrow ∧ blocks.length < 99 then
      some ([.indent], columns :: blocks)
    else none
  else
    let (closed, left) := closeBlocks columns blocks
    if left.headD {} = columns then some (List.replicate closed .dedent, left) else none

/-- What is known of the text read so far. -/
structure ReadState where
  /-- The number of the line. -/
  line : Nat := 1
  /-- Nothing of the line has been read. -/
  atLineStart : Bool := true
  /-- The open brackets, the innermost first. -/
  nest : List Symbol := []
  /-- The open blocks, the innermost first. -/
  blocks : List Columns := []

/-- Is the character a blank within a line? -/
def isLineBlank (c : Char) : Bool := c == ' ' || c == '\t' || c == '\x0c'

/-- The number of line feeds in a text. -/
def countLines (text : List Char) : Nat := text.count '\n'

/-- The tokens at the start of a text, which may be none, with the state and the text behind them. -/
def readStep (state : ReadState) (text : List Char) :
    Option (List Token × ReadState × List Char) :=
  if state.atLineStart then do
    let (columns, lines, rest) ← measure {} 0 0 text
    let state := { state with line := state.line + lines, atLineStart := false }
    if rest.head? = some '#' ∨ rest.head? = some '\n' ∨ !state.nest.isEmpty then
      match rest.dropWhile (fun c => rest.head? = some '#' && c != '\n') with
      | '\n' :: after =>
        return ([], { state with line := state.line + 1, atLineStart := true }, after)
      | after => return ([], state, after)
    else
      let (kinds, blocks) ← blockTokens columns state.blocks
      return (kinds.map (⟨·, state.line⟩), { state with blocks }, rest)
  else
    match text.dropWhile isLineBlank with
    | [] => none
    | '#' :: rest => some ([], state, rest.dropWhile (· != '\n'))
    | '\n' :: rest =>
      some (if state.nest.isEmpty then [⟨.newline, state.line⟩] else [],
        { state with line := state.line + 1, atLineStart := true }, rest)
    | '\\' :: '\n' :: rest =>
      if rest.isEmpty then none else some ([], { state with line := state.line + 1 }, rest)
    | c :: rest => do
      let text := c :: rest
      let (word, after) :=
        if isNameChar c && !isDecimal c then text.span isNameChar else ([], text)
      if after.head? = some '\'' ∨ after.head? = some '"' then
        match literalForm? word with
        | some form =>
          let (body, after) ← literalBody after
          let value ← literalToken form body
          return ([⟨.string value, state.line⟩],
            { state with line := state.line + countLines body }, after)
        | none => return ([⟨← wordToken word, state.line⟩], state, after)
      else if !word.isEmpty then
        return ([⟨← wordToken word, state.line⟩], state, after)
      else if isDecimal c || (c == '.' && (rest.head?.map isDecimal).getD false) then
        let (value, after) ← readNumber text
        return ([⟨.number value, state.line⟩], state, after)
      else
        let (symbol, after) ← readSymbol text
        let nest ← nestAfter state.nest symbol
        return ([⟨.symbol symbol, state.line⟩], { state with nest }, after)

/-- The tokens from a state on. All blocks end at the end of the text, where no bracket may be
open. -/
def readFrom : (fuel : Nat) → ReadState → List Char → Option (List Token)
  | 0, _, _ => none
  | fuel + 1, state, text =>
    if text.isEmpty then
      if state.nest.isEmpty then
        some (List.replicate state.blocks.length ⟨.dedent, state.line⟩
          ++ [⟨.endOfSource, state.line⟩])
      else none
    else do
      let (tokens, state, rest) ← readStep state text
      let others ← readFrom fuel state rest
      return tokens ++ others

/-- The text with a line feed at its end. -/
def endLastLine (text : List Char) : List Char :=
  if text.getLast? = some '\n' then text else text ++ ['\n']

/-- The tokens of a source text whose line ends are line feeds. -/
def tokens? (text : List Char) : Option (List Token) :=
  let text := endLastLine text
  readFrom (2 * text.length + 2) {} text

end EnumCodec.Source
