/-!
# EnumCodec.Number.Binary64

**Floating-point numbers of the 64-bit binary format, in exact integer arithmetic.** A finite number
is a sign, a significand and a power of two in a canonical form, so that two numbers of one sign are
equal exactly if their fields are. Decimals and quotients are rounded to the nearest number, and a
tie goes to the even significand.
-/

namespace EnumCodec.Number

/-- A number of the 64-bit binary format. -/
inductive Binary64 where
  /-- The number `± significand · 2 ^ exponent`, with the significand below `2 ^ 53` and the exponent
  at least `-1074`; a significand below `2 ^ 52` only with the exponent `-1074`. -/
  | finite (negative : Bool) (significand : Nat) (exponent : Int)
  /-- An infinity. -/
  | infinite (negative : Bool)
  /-- The value that is no number. -/
  | nan
deriving DecidableEq, Repr, Inhabited

namespace Binary64

/-- Positive zero. -/
def zero : Binary64 := .finite false 0 (-1074)

/-- The quotient of two integers divided by `2 ^ exponent` and rounded to the nearest integer, a tie
to the even one. -/
def scaledQuotient (num den : Nat) (exponent : Int) : Nat :=
  let num := if exponent < 0 then num * Nat.pow 2 exponent.natAbs else num
  let den := if exponent < 0 then den else den * Nat.pow 2 exponent.natAbs
  let quotient := num / den
  let rest := num % den
  if den < 2 * rest || (den == 2 * rest && quotient % 2 == 1) then quotient + 1 else quotient

/-- The canonical number for a rounded significand of at most `2 ^ 53`. -/
def ofSignificand (negative : Bool) (significand : Nat) (exponent : Int) : Binary64 :=
  let carried := significand == Nat.pow 2 53
  let exponent := if carried then exponent + 1 else exponent
  if exponent > 971 then .infinite negative
  else .finite negative (if carried then Nat.pow 2 52 else significand) exponent

/-- The number nearest to `± num / den`; `den` is not zero. -/
def ofRatio (negative : Bool) (num den : Nat) : Binary64 :=
  if num = 0 then .finite negative 0 (-1074)
  else
    let guess : Int := (num.log2 : Int) - (den.log2 : Int) - 53
    let guess := if guess < -1074 then -1074 else guess
    let significand := scaledQuotient num den guess
    if significand ≤ Nat.pow 2 53 then ofSignificand negative significand guess
    else ofSignificand negative (scaledQuotient num den (guess + 1)) (guess + 1)

/-- The number of decimal digits of a natural number; zero has one. -/
def digitCount (n : Nat) : Nat :=
  (Nat.repr n).length

/-- The number nearest to `± digits · 10 ^ exponent`. Exponents far outside the range of the format
are decided from the count of the digits. -/
def ofDecimal (negative : Bool) (digits : Nat) (exponent : Int) : Binary64 :=
  if digits = 0 then .finite negative 0 (-1074)
  else
    let magnitude := (digitCount digits : Int) + exponent
    if magnitude > 310 then .infinite negative
    else if magnitude < -330 then .finite negative 0 (-1074)
    else if exponent < 0 then ofRatio negative digits (Nat.pow 10 exponent.natAbs)
    else ofRatio negative (digits * Nat.pow 10 exponent.natAbs) 1

/-- The number nearest to an integer, unless it lies beyond the largest finite number. -/
def ofInt? (n : Int) : Option Binary64 :=
  match ofRatio (n < 0) n.natAbs 1 with
  | .finite negative significand exponent => some (.finite negative significand exponent)
  | _ => none

/-- The number with the opposite sign. -/
def negate : Binary64 → Binary64
  | .finite negative significand exponent => .finite (!negative) significand exponent
  | .infinite negative => .infinite (!negative)
  | .nan => .nan

/-- Has the number a minus sign? -/
def isNegative : Binary64 → Bool
  | .finite negative _ _ => negative
  | .infinite negative => negative
  | .nan => false

/-- Is the number one of the two zeros? -/
def isZero : Binary64 → Bool
  | .finite _ significand _ => significand == 0
  | _ => false

/-- The sum with a zero: only a zero changes, whose sign stays negative if both signs are. -/
def addZero (x : Binary64) (negativeZero : Bool) : Binary64 :=
  match x with
  | .finite negative 0 exponent => .finite (negative && negativeZero) 0 exponent
  | _ => x

/-- Numeric equality: the two zeros are equal, and the value that is no number differs from all. -/
def numericEq : Binary64 → Binary64 → Bool
  | .finite n₁ s₁ e₁, .finite n₂ s₂ e₂ =>
    (s₁ == 0 && s₂ == 0) || (n₁ == n₂ && s₁ == s₂ && e₁ == e₂)
  | .infinite n₁, .infinite n₂ => n₁ == n₂
  | _, _ => false

/-- Numeric equality with an integer, without rounding it. -/
def equalsInt (x : Binary64) (n : Int) : Bool :=
  match x with
  | .finite negative significand exponent =>
    let magnitudeEq :=
      if exponent < 0 then significand == n.natAbs * Nat.pow 2 exponent.natAbs
      else significand * Nat.pow 2 exponent.natAbs == n.natAbs
    magnitudeEq && (significand == 0 || negative == decide (n < 0))
  | _ => false

end Binary64

end EnumCodec.Number
