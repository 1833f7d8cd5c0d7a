import EnumCodec.Source.Token

/-!
# EnumCodec.Source.Expr

**Expressions.** Parentheses leave no trace in an expression. The same type serves for the targets of
assignments, which are names, attributes, subscripts, and tuples and lists of targets.
-/

namespace EnumCodec.Source

/-- The value of a literal. -/
inductive Constant where
  /-- The literal `None`. -/
  | none
  /-- One of the literals `True` and `False`. -/
  | bool (value : Bool)
  /-- The literal `...`. -/
  | ellipsis
  /-- An integer. -/
  | int (value : Nat)
  /-- A floating-point number. -/
  | float (value : Number.Binary64)
  /-- An imaginary number. -/
  | imaginary (value : Number.Binary64)
  /-- A text. -/
  | text (value : String)
  /-- A text that holds halves of surrogate pairs. -/
  | broken (value : Text.BrokenText)
  /-- A byte string. -/
  | bytes (value : List UInt8)
deriving DecidableEq, Repr

/-- The literal of a text. -/
def Constant.ofText : Text.CodeText → Constant
  | .plain value => .text value
  | .broken value => .broken value

/-- The operators before one operand. -/
inductive UnaryOp where
  | plus | minus | invert | not
deriving DecidableEq, Repr

/-- The operators that compare two operands. -/
inductive CompareOp where
  | equal | notEqual | less | lessEqual | greater | greaterEqual | identical | notIdentical
  | within | notWithin
deriving DecidableEq, Repr

/-- What a comprehension builds. -/
inductive Collection where
  | list | set | dict | generator
deriving DecidableEq, Repr

/-- A parameter of a function. -/
structure Parameter (α : Type) where
  name : String
  annotation : Option α
  default : Option α

/-- The parameters of a function, by the ways in which an argument can reach them. -/
structure Parameters (α : Type) where
  positionalOnly : List (Parameter α)
  positional : List (Parameter α)
  /-- The parameter for all further positional arguments. -/
  variadic : Option (Parameter α)
  keywordOnly : List (Parameter α)
  /-- The parameter for all further keyword arguments. -/
  keywords : Option (Parameter α)

/-- A clause `for target in source` of a comprehension with its conditions. -/
structure Clause (α : Type) where
  isAsync : Bool
  target : α
  source : α
  conditions : List α

/-- An expression. -/
inductive Expr where
  /-- A literal. -/
  | constant (value : Constant)
  /-- A name. -/
  | name (id : String)
  /-- `object.attr`. -/
  | attribute (object : Expr) (attr : String)
  /-- `object[index]`. -/
  | subscript (object index : Expr)
  /-- A slice between the brackets of a subscript. -/
  | slice (lower upper step : Option Expr)
  /-- A call; a keyword argument without a name is a mapping that is unpacked. -/
  | call (callee : Expr) (args : List Expr) (keywords : List (Option String × Expr))
  /-- A tuple. -/
  | tuple (items : List Expr)
  /-- A list. -/
  | list (items : List Expr)
  /-- A set, which has at least one item. -/
  | set (items : List Expr)
  /-- A mapping; an entry without a key is a mapping that is unpacked. -/
  | dict (entries : List (Option Expr × Expr))
  /-- An operator before an operand. -/
  | unary (op : UnaryOp) (operand : Expr)
  /-- An operator between two operands. -/
  | binary (left : Expr) (op : BinaryOp) (right : Expr)
  /-- A chain of comparisons. -/
  | compare (first : Expr) (others : List (CompareOp × Expr))
  /-- Operands joined by `and`. -/
  | all (operands : List Expr)
  /-- Operands joined by `or`. -/
  | any (operands : List Expr)
  /-- `body if test else orElse`. -/
  | conditional (test body orElse : Expr)
  /-- A function without a name. -/
  | lambda (parameters : Parameters Expr) (body : Expr)
  /-- `*value`. -/
  | starred (value : Expr)
  /-- `target := value`. -/
  | named (target : String) (value : Expr)
  /-- `await value`. -/
  | await (value : Expr)
  /-- `yield value`. -/
  | yield (value : Option Expr)
  /-- `yield from value`. -/
  | yieldFrom (value : Expr)
  /-- A comprehension; the value belongs to that of a mapping. -/
  | comprehension (kind : Collection) (element : Expr) (value : Option Expr)
      (clauses : List (Clause Expr))
  /-- A text with replacement fields, of which the expressions are kept. -/
  | formatted (fields : List Expr)

end EnumCodec.Source
