import EnumCodec.Source.Stmt

/-!
# EnumCodec.Source.Grammar.Basic

**Rules of the grammar.** A rule reads a value off the front of a list of tokens or does not apply. The
rules for the parts of the language that contain themselves are passed to one another as one function
on these parts, so that each rule is a plain definition; the knot is tied where a module is read.
-/

namespace EnumCodec.Source

/-- A rule takes its tokens off the front, or fails. -/
abbrev Rule (α : Type) := StateT (List Token) Option α

/-- The parts of the language that contain themselves. -/
inductive Part where
  /-- An expression without commas and stars. -/
  | expression
  /-- An operand of a product, with the operators before it. -/
  | factor
  /-- An atom with its calls, subscripts and attributes. -/
  | primary
  /-- One expression, or several with commas between them. -/
  | expressions
  /-- A pattern of a `match` statement. -/
  | pattern
  /-- Statements up to the end of their block. -/
  | statements

/-- What the rule for a part reads. -/
abbrev Part.Result : Part → Type
  | .expression => Expr
  | .factor => Expr
  | .primary => Expr
  | .expressions => Expr
  | .pattern => Pattern
  | .statements => List Stmt

/-- The rules for all parts. -/
abbrev Rules := (part : Part) → Rule part.Result

/-! ### Single tokens -/

/-- The kind of the next token. -/
def peek : Rule (Option TokenKind) := fun tokens =>
  some (tokens.head?.map (·.kind), tokens)

/-- The kind of the token after the next one. -/
def peekSecond : Rule (Option TokenKind) := fun tokens =>
  some (tokens.tail.head?.map (·.kind), tokens)

/-- The line of the next token. -/
def peekLine : Rule Nat := fun tokens =>
  some ((tokens.head?.map (·.line)).getD 0, tokens)

/-- Takes the next token, whatever it is. -/
def skip : Rule Unit := fun tokens => some ((), tokens.tail)

/-- Takes a token of the given kind. -/
def token (kind : TokenKind) : Rule Unit := fun
  | t :: rest => if t.kind = kind then some ((), rest) else none
  | [] => none

/-- Takes a symbol. -/
def symbol (s : Symbol) : Rule Unit := token (.symbol s)

/-- Takes a keyword. -/
def keyword (k : Keyword) : Rule Unit := token (.keyword k)

/-- Is the next token of the given kind? -/
def nextIs (kind : TokenKind) : Rule Bool := do
  return (← peek) = some kind

/-- Is the next token the symbol? -/
def atSymbol (s : Symbol) : Rule Bool := nextIs (.symbol s)

/-- Is the next token the keyword? -/
def atKeyword (k : Keyword) : Rule Bool := nextIs (.keyword k)

/-- Fails unless the condition holds. -/
def require (condition : Bool) : Rule Unit := fun tokens =>
  if condition then some ((), tokens) else none

/-- The text of a name; soft keywords are names. -/
def TokenKind.nameText? : TokenKind → Option String
  | .name id => some id
  | .soft word => some word.text
  | _ => none

/-- Takes a name. -/
def name : Rule String := fun
  | t :: rest => t.kind.nameText?.map (·, rest)
  | [] => none

/-! ### Repetition and choice -/

/-- The first rule, or the second if the first does not apply. -/
def either {α : Type} (first second : Rule α) : Rule α := fun tokens =>
  match first tokens with
  | some result => some result
  | none => second tokens

/-- The rule, if it applies. -/
def possibly {α : Type} (rule : Rule α) : Rule (Option α) := fun tokens =>
  match rule tokens with
  | some (value, rest) => some (some value, rest)
  | none => some (none, tokens)

/-- The rule as often as it applies, but at most `bound` times. -/
def manyUpTo {α : Type} (rule : Rule α) : (bound : Nat) → Rule (List α)
  | 0 => fun tokens => some ([], tokens)
  | bound + 1 => fun tokens =>
    match rule tokens with
    | none => some ([], tokens)
    | some (value, rest) =>
      match manyUpTo rule bound rest with
      | some (values, rest) => some (value :: values, rest)
      | none => none

/-- The rule as often as it applies. The rule takes a token each time, so that there are no more
repetitions than tokens. -/
def many {α : Type} (rule : Rule α) : Rule (List α) := fun tokens =>
  manyUpTo rule tokens.length tokens

/-- The rule as often as it applies, at least once. -/
def manyOne {α : Type} (rule : Rule α) : Rule (List α) := do
  let first ← rule
  let others ← many rule
  return first :: others

/-- The rule once or more, with a separator between. -/
def separated {α : Type} (rule : Rule α) (separator : Rule Unit) : Rule (List α) := do
  let first ← rule
  let others ← many do
    separator
    rule
  return first :: others

/-- The rule once or more with commas between, and whether a comma ends the list. -/
def commaList {α : Type} (rule : Rule α) : Rule (List α × Bool) := do
  let items ← separated rule (symbol .comma)
  let ending ← possibly (symbol .comma)
  return (items, ending.isSome)

/-- A single expression, unless commas make it a tuple. -/
def tupleUnlessSingle : List Expr × Bool → Expr
  | ([item], false) => item
  | (items, _) => .tuple items

end EnumCodec.Source
