import EnumCodec.Number.Binary64
import EnumCodec.Text.CodePoint

/-!
# EnumCodec.Source.Token

**The tokens of Python source text.** Keywords and symbols are enumerations, names are kept in their
compatibility form, and the literals already have their values. A token knows the line it begins on.
-/

namespace EnumCodec.Source

/-- The words that are never names. -/
inductive Keyword where
  | andK | asK | assertK | asyncK | awaitK | breakK | classK | continueK | defK | delK | elifK
  | elseK | exceptK | falseK | finallyK | forK | fromK | globalK | ifK | importK | inK | isK
  | lambdaK | noneK | nonlocalK | notK | orK | passK | raiseK | returnK | trueK | tryK | whileK
  | withK | yieldK
deriving DecidableEq, Repr

/-- The spelling of each keyword. -/
def Keyword.spellings : List (String × Keyword) :=
  [("and", .andK), ("as", .asK), ("assert", .assertK), ("async", .asyncK), ("await", .awaitK),
   ("break", .breakK), ("class", .classK), ("continue", .continueK), ("def", .defK),
   ("del", .delK), ("elif", .elifK), ("else", .elseK), ("except", .exceptK),
   ("False", .falseK), ("finally", .finallyK), ("for", .forK), ("from", .fromK),
   ("global", .globalK), ("if", .ifK), ("import", .importK), ("in", .inK), ("is", .isK),
   ("lambda", .lambdaK), ("None", .noneK), ("nonlocal", .nonlocalK), ("not", .notK),
   ("or", .orK), ("pass", .passK), ("raise", .raiseK), ("return", .returnK), ("True", .trueK),
   ("try", .tryK), ("while", .whileK), ("with", .withK), ("yield", .yieldK)]

/-- The words that are keywords only where a statement or a pattern asks for them. -/
inductive SoftKeyword where
  /-- `match`, which may begin a statement. -/
  | matchWord
  /-- `case`, which may begin a branch of that statement. -/
  | caseWord
  /-- `_`, the pattern that matches everything. -/
  | underscore
deriving DecidableEq, Repr

/-- The spelling of a soft keyword, which is a name as well. -/
def SoftKeyword.text : SoftKeyword → String
  | .matchWord => "match"
  | .caseWord => "case"
  | .underscore => "_"

/-- The operators between two operands that compute a value. -/
inductive BinaryOp where
  | add | sub | mul | matMul | div | floorDiv | mod | pow | shiftLeft | shiftRight
  | bitOr | bitXor | bitAnd
deriving DecidableEq, Repr

/-- The operators and the punctuation. -/
inductive Symbol where
  | leftParen | rightParen | leftBracket | rightBracket | leftBrace | rightBrace
  | comma | colon | semicolon | dot | ellipsis | arrow | walrus | assign | tilde
  | less | greater | lessEqual | greaterEqual | equal | notEqual
  /-- The two characters `<>`, which no rule accepts. -/
  | lessGreater
  /-- The symbol of an operator between two operands; some have further uses. -/
  | operator (op : BinaryOp)
  /-- An operator followed by an equals sign. -/
  | augmented (op : BinaryOp)
deriving DecidableEq, Repr

/-- The value of a numeric literal. -/
inductive NumberToken where
  /-- An integer. -/
  | int (value : Nat)
  /-- A floating-point number. -/
  | float (value : Number.Binary64)
  /-- An imaginary number. -/
  | imaginary (value : Number.Binary64)
deriving DecidableEq, Repr

/-- The value of a string literal. -/
inductive StringToken where
  /-- A text. -/
  | text (value : String)
  /-- A text that holds halves of surrogate pairs. -/
  | broken (value : Text.BrokenText)
  /-- A byte string. -/
  | bytes (value : List UInt8)
  /-- A text with replacement fields, of which only the source of the fields is kept. -/
  | formatted (fields : List (List Char))
deriving DecidableEq, Repr

/-- The value of a literal that is a text. -/
def StringToken.ofText : Text.CodeText → StringToken
  | .plain value => .text value
  | .broken value => .broken value

/-- The code points of a text, of which the other literals have none. -/
def StringToken.codes : StringToken → List Text.CodePoint
  | .text value => value.toList.map .char
  | .broken value => value.codes
  | _ => []

/-- What a token is. -/
inductive TokenKind where
  /-- A name. -/
  | name (id : String)
  /-- A name that is a soft keyword. -/
  | soft (word : SoftKeyword)
  /-- A keyword. -/
  | keyword (word : Keyword)
  /-- A numeric literal. -/
  | number (value : NumberToken)
  /-- A string literal. -/
  | string (value : StringToken)
  /-- An operator or a piece of punctuation. -/
  | symbol (symbol : Symbol)
  /-- The end of a logical line. -/
  | newline
  /-- The begin of a block that stands further to the right. -/
  | indent
  /-- The end of such a block. -/
  | dedent
  /-- The end of the source. -/
  | endOfSource
deriving DecidableEq, Repr

/-- A token and the number of the line it begins on. -/
structure Token where
  kind : TokenKind
  line : Nat
deriving DecidableEq, Repr

end EnumCodec.Source
