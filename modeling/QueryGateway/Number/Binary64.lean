/-!
# Binary floating point of 64 bits

A value is kept as the integers that denote it, so that comparison, rounding
and conversion are exact integer arithmetic.  `ofFraction` rounds a quotient to
the nearest value, a half to the even neighbour, and is the only function that
makes a rounded value.
-/

namespace QueryGateway

/-- A 64-bit floating-point value: `mantissa * 2 ^ exponent` with a sign, an infinity, or no
number at all. -/
inductive Binary64 where
  | finite (negative : Bool) (mantissa : Nat) (exponent : Int)
  | infinite (negative : Bool)
  | nan
  deriving Repr, DecidableEq

/-- A non-negative quotient of natural numbers. -/
structure Fraction where
  numerator : Nat
  denominator : Nat
  deriving Repr, DecidableEq

namespace Fraction

/-- The nearest integer to a quotient; a half goes to the even neighbour. -/
def nearest (value : Fraction) : Nat :=
  let quotient := value.numerator / value.denominator
  let twice := 2 * (value.numerator % value.denominator)
  if twice < value.denominator || (twice = value.denominator && quotient % 2 = 0) then
    quotient
  else
    quotient + 1

/-- The quotient times a power of a base. -/
def scaled (base : Nat) (power : Int) (value : Fraction) : Fraction :=
  match power with
  | .ofNat up => ⟨value.numerator * Nat.pow base up, value.denominator⟩
  | .negSucc down => ⟨value.numerator, value.denominator * Nat.pow base (down + 1)⟩

/-- Whether one quotient is at most another. -/
def le (left right : Fraction) : Bool :=
  left.numerator * right.denominator ≤ right.numerator * left.denominator

/-- The greatest power of two that is not above a positive quotient. -/
def log2 (value : Fraction) : Int :=
  let estimate : Int := (Nat.log2 value.numerator : Int) - Nat.log2 value.denominator
  if le (scaled 2 estimate ⟨1, 1⟩) value then estimate else estimate - 1

end Fraction

namespace Binary64

/-- The number of bits of a mantissa. -/
def precision : Nat := 53

/-- The least exponent of a mantissa's unit. -/
def minExponent : Int := -1074

/-- The greatest exponent of a mantissa's unit. -/
def maxExponent : Int := 971

/-- The value nearest to a quotient, a half to the even neighbour; too great a quotient is
infinite. -/
def ofFraction (negative : Bool) (value : Fraction) : Binary64 :=
  if value.numerator = 0 then
    .finite negative 0 minExponent
  else
    let exponent := max (value.log2 - (precision - 1 : Nat)) minExponent
    let mantissa := (value.scaled 2 (-exponent)).nearest
    let carried := mantissa = Nat.pow 2 precision
    let exponent := if carried then exponent + 1 else exponent
    let mantissa := if carried then Nat.pow 2 (precision - 1) else mantissa
    if exponent > maxExponent then .infinite negative else .finite negative mantissa exponent

/-- The value nearest to an integer. -/
def ofInt (n : Int) : Binary64 :=
  ofFraction (n < 0) ⟨n.natAbs, 1⟩

/-- The value nearest to `coefficient * 10 ^ exponent`.  Exponents far outside the range are
settled without forming the power. -/
def ofDecimal (negative : Bool) (coefficient : Nat) (exponent : Int) : Binary64 :=
  let magnitude : Int := (Nat.log2 coefficient : Int) / 4 + exponent
  if coefficient = 0 then
    .finite negative 0 minExponent
  else if magnitude > 400 then
    .infinite negative
  else if (Nat.log2 coefficient : Int) + exponent < -400 then
    .finite negative 0 minExponent
  else
    ofFraction negative (Fraction.scaled 10 exponent ⟨coefficient, 1⟩)

/-- Whether a value is a number. -/
def isFinite : Binary64 → Bool
  | .finite .. => true
  | _ => false

/-- The magnitude of a finite value as a quotient. -/
def magnitude (mantissa : Nat) (exponent : Int) : Fraction :=
  Fraction.scaled 2 exponent ⟨mantissa, 1⟩

/-- The integer part of a finite value, toward zero. -/
def truncate? : Binary64 → Option Int
  | .finite negative mantissa exponent =>
      let value := magnitude mantissa exponent
      let whole : Int := (value.numerator / value.denominator : Nat)
      some (if negative then -whole else whole)
  | _ => none

/-- The integer that a value equals, if it equals one. -/
def toInt? : Binary64 → Option Int
  | .finite negative mantissa exponent =>
      let value := magnitude mantissa exponent
      if value.numerator % value.denominator = 0 then
        truncate? (.finite negative mantissa exponent)
      else
        none
  | _ => none

/-- Whether a value is greater than an integer; no comparison holds of `nan`. -/
def exceeds : Binary64 → Int → Bool
  | .finite negative mantissa exponent, bound =>
      let value := magnitude mantissa exponent
      let numerator : Int := if negative then -value.numerator else value.numerator
      numerator > bound * value.denominator
  | .infinite negative, _ => !negative
  | .nan, _ => false

/-- Whether a value is at most an integer; no comparison holds of `nan`. -/
def isAtMost : Binary64 → Int → Bool
  | .nan, _ => false
  | value, bound => !value.exceeds bound

end Binary64

end QueryGateway
