import EnumCodec.Source.Expr
import EnumCodec.Value

/-!
# EnumCodec.Declaration.Literal

**The values of literal expressions.** Literals, displays of literals, the call `set()`, numbers with a
sign, and a real number plus or minus an imaginary one have a value; everything else has none, and
neither has a set or a mapping with a key that cannot be one. An integer that is to be joined with an
imaginary part must fit a floating-point number.
-/

namespace EnumCodec.Declaration

open Source Number

/-- Why an expression has no value. -/
inductive LiteralError where
  /-- It is no literal. -/
  | notLiteral
  /-- It joins an imaginary part to an integer beyond the floating-point numbers. -/
  | integerTooLarge
deriving DecidableEq, Repr

/-- A number without a sign. -/
def unsignedNumber : Expr → Except LiteralError Value
  | .constant (.int value) => .ok (.int value)
  | .constant (.float value) => .ok (.float value)
  | .constant (.imaginary value) => .ok (.complex .zero value)
  | _ => .error .notLiteral

/-- The number with the opposite sign. -/
def negated : Value → Value
  | .int value => .int (-value)
  | .float value => .float value.negate
  | .complex re im => .complex re.negate im.negate
  | value => value

/-- A number with at most one sign. -/
def signedNumber : Expr → Except LiteralError Value
  | .unary .plus operand => unsignedNumber operand
  | .unary .minus operand => (unsignedNumber operand).map negated
  | number => unsignedNumber number

/-- A real number with an imaginary part added or taken away. -/
def joinImaginary (minus : Bool) (left right : Value) : Except LiteralError Value :=
  match right with
  | .complex _ im =>
    let imaginary := (if minus then im.negate else im).addZero false
    match left with
    | .int value =>
      match Binary64.ofInt? value with
      | some real => .ok (.complex (real.addZero minus) imaginary)
      | none => .error .integerTooLarge
    | .float real => .ok (.complex (real.addZero minus) imaginary)
    | _ => .error .notLiteral
  | _ => .error .notLiteral

mutual

/-- The value of a literal expression. -/
def literalValue : Expr → Except LiteralError Value
  | .constant .none => .ok .none
  | .constant (.bool value) => .ok (.bool value)
  | .constant .ellipsis => .ok .ellipsis
  | .constant (.text value) => .ok (.text value)
  | .constant (.broken value) => .ok (.broken value)
  | .constant (.bytes value) => .ok (.bytes value)
  | .tuple items => (literalValues items).map .tuple
  | .list items => (literalValues items).map .list
  | .set items => (literalItems [] items).map .set
  | .dict entries => (literalEntries [] entries).map .dict
  | .call (.name "set") [] [] => .ok (.set [])
  | .binary left .add right => do joinImaginary false (← signedNumber left) (← unsignedNumber right)
  | .binary left .sub right => do joinImaginary true (← signedNumber left) (← unsignedNumber right)
  | number => signedNumber number

/-- The values of literal expressions. -/
def literalValues : List Expr → Except LiteralError (List Value)
  | [] => .ok []
  | item :: rest => do
    let value ← literalValue item
    return value :: (← literalValues rest)

/-- The items of a set, put to those before them. -/
def literalItems (items : List Value) : List Expr → Except LiteralError (List Value)
  | [] => .ok items
  | item :: rest => do
    let value ← literalValue item
    if value.isKey then literalItems (Value.insertItem items value) rest
    else .error .notLiteral

/-- The entries of a mapping, put to those before them. -/
def literalEntries (entries : List (Value × Value)) :
    List (Option Expr × Expr) → Except LiteralError (List (Value × Value))
  | [] => .ok entries
  | (some key, value) :: rest => do
    let key ← literalValue key
    let value ← literalValue value
    if key.isKey then literalEntries (Value.insertEntry entries key value) rest
    else .error .notLiteral
  | (none, _) :: _ => .error .notLiteral

end

end EnumCodec.Declaration
