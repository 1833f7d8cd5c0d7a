import EnumCodec.Number.Binary64

/-!
# EnumCodec.Number.Shortest

**The shortest decimal that reads back, and how it is written.** Of the decimals with the fewest
digits that are read as a given number, the one nearest to it is written. Numbers from `0.0001` up to
below `10 ^ 16` have a decimal point in its place and at least one digit behind it; all others have
an exponent with a sign and at least two digits.
-/

namespace EnumCodec.Number

/-- A decimal `digits · 10 ^ exponent`. -/
structure Decimal where
  /-- The digits as one number. -/
  digits : Nat
  /-- The power of ten of the last digit. -/
  exponent : Int
deriving DecidableEq, Repr

/-- The quotient `num / den` divided by `10 ^ exponent`: its integral part, and twice its remainder
compared with the divisor. -/
def decimalQuotient (num den : Nat) (exponent : Int) : Nat × Ordering :=
  let num := if exponent < 0 then num * Nat.pow 10 exponent.natAbs else num
  let den := if exponent < 0 then den else den * Nat.pow 10 exponent.natAbs
  (num / den, compare (2 * (num % den)) den)

/-- A decimal of the grid `10 ^ exponent` next to the positive number `num / den` that is read as
that number, if there is one. Of two, the nearer is taken, and of two equally near the even one. -/
def nearestReadBack (num den : Nat) (exponent : Int) : Option Decimal :=
  let target := Binary64.ofRatio false num den
  let (below, side) := decimalQuotient num den exponent
  let above := below + 1
  let readsBack := fun digits => Binary64.ofDecimal false digits exponent == target
  let preferAbove := side == .gt || (side == .eq && below % 2 == 1)
  let (first, second) := if preferAbove then (above, below) else (below, above)
  if readsBack first then some ⟨first, exponent⟩
  else if readsBack second then some ⟨second, exponent⟩
  else none

/-- The decimal exponent of the first digit of the positive number `num / den`, found by counting
down from an exponent that is not too small. -/
def leadingExponent (num den : Nat) : (steps : Nat) → Int → Int
  | 0, exponent => exponent
  | steps + 1, exponent =>
    if (decimalQuotient num den exponent).1 = 0 then leadingExponent num den steps (exponent - 1)
    else exponent

/-- The first grid, from coarse to fine, on which a neighbour of the number reads back. -/
def firstReadBack (num den : Nat) : (grids : Nat) → Int → Decimal
  | 0, exponent => ⟨(decimalQuotient num den exponent).1, exponent⟩
  | grids + 1, exponent =>
    match nearestReadBack num den exponent with
    | some decimal => decimal
    | none => firstReadBack num den grids (exponent - 1)

/-- The shortest decimal that is read as the positive number `significand · 2 ^ exponent`. -/
def shortest (significand : Nat) (exponent : Int) : Decimal :=
  let num := if exponent < 0 then significand else significand * Nat.pow 2 exponent.natAbs
  let den := if exponent < 0 then Nat.pow 2 exponent.natAbs else 1
  let start : Int :=
    if den ≤ num then ((num / den).log2 * 4 / 13 + 1 : Nat)
    else -(((den / num).log2 * 3 / 10 : Nat) : Int)
  firstReadBack num den 17 (leadingExponent num den 40 start)

/-- The digits of a number without the zeros at its end. -/
def significantDigits (n : Nat) : List Char :=
  ((Nat.repr n).toList.reverse.dropWhile (· == '0')).reverse

/-- The text of a decimal exponent: its sign and at least two digits. -/
def exponentText (exponent : Int) : List Char :=
  let digits := (Nat.repr exponent.natAbs).toList
  (if exponent < 0 then '-' else '+') ::
    (if digits.length < 2 then '0' :: digits else digits)

/-- The text of a positive decimal. A number that has no digit behind its point keeps a zero there
only if `keepPoint` is set. -/
def decimalText (keepPoint : Bool) (decimal : Decimal) : List Char :=
  let count : Int := (Nat.repr decimal.digits).length
  let digits := significantDigits decimal.digits
  let point := count + decimal.exponent
  let width : Int := digits.length
  if -4 < point ∧ point ≤ 16 then
    if point ≤ 0 then '0' :: '.' :: (List.replicate point.natAbs '0' ++ digits)
    else if width ≤ point then
      digits ++ List.replicate (point - width).natAbs '0' ++ (if keepPoint then ['.', '0'] else [])
    else digits.take point.natAbs ++ '.' :: digits.drop point.natAbs
  else
    let mantissa :=
      match digits with
      | [] => []
      | [d] => [d]
      | d :: rest => d :: '.' :: rest
    mantissa ++ 'e' :: exponentText (point - 1)

namespace Binary64

/-- The text of a number without its sign. -/
def magnitudeText (keepPoint : Bool) : Binary64 → List Char
  | .nan => ['n', 'a', 'n']
  | .infinite _ => ['i', 'n', 'f']
  | .finite _ significand exponent =>
    if significand = 0 then '0' :: (if keepPoint then ['.', '0'] else [])
    else decimalText keepPoint (shortest significand exponent)

/-- The text of a number; a number without fraction ends in `.0` only if `keepPoint` is set. -/
def text (keepPoint : Bool) (x : Binary64) : String :=
  String.ofList ((if x.isNegative then ['-'] else []) ++ x.magnitudeText keepPoint)

end Binary64

/-- The text of a complex number. A real part that is positive zero is left out; otherwise both parts
stand in parentheses, the imaginary one with its sign. -/
def complexText (re im : Binary64) : String :=
  if re.isZero && !re.isNegative then im.text false ++ "j"
  else
    let sign := if im.isNegative then "" else "+"
    "(" ++ re.text false ++ sign ++ im.text false ++ "j)"

end EnumCodec.Number
