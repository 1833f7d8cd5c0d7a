/-!
# EnumCodec.Text.Hexadecimal

**Hexadecimal numbers in capitals,** as the tables and the names of characters spell them.
-/

namespace EnumCodec.Text

/-- The value of a hexadecimal digit of the tables. -/
def tableDigit (c : Char) : Nat :=
  if 'A' ≤ c then c.toNat - 55 else c.toNat - 48

/-- The number that the digits of a table spell. -/
def tableNumber (digits : List Char) : Nat :=
  digits.foldl (fun number c => 16 * number + tableDigit c) 0

/-- Is a character a decimal digit or one of the first six capitals? -/
def isTableDigit (c : Char) : Bool :=
  ('0' ≤ c && c ≤ '9') || ('A' ≤ c && c ≤ 'F')

end EnumCodec.Text
