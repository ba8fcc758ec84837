import QueryGateway.Number.Binary64
import QueryGateway.Number.Numeral

/-!
# Decimal numbers

Numbers of decimal arithmetic: a sign, a coefficient and a power of ten, or one
of the special values.  Two numbers of equal size but different exponents are
different values with different texts.
-/

namespace QueryGateway

/-- A decimal number.  A `nan` may signal and may carry a payload, zero standing for none. -/
inductive Decimal where
  | finite (negative : Bool) (coefficient : Nat) (exponent : Int)
  | infinite (negative : Bool)
  | nan (negative : Bool) (signaling : Bool) (payload : Nat)
  deriving Repr, DecidableEq

namespace Decimal

/-- Whether a value is a number. -/
def isFinite : Decimal → Bool
  | .finite .. => true
  | _ => false

/-- The sign mark of a text. -/
def signText (negative : Bool) : String :=
  if negative then "-" else ""

/-- The scientific text of a coefficient and an exponent: positional if no digit has to be added
on the right and at most six zeros on the left, else with an exponent. -/
def magnitudeText (coefficient : Nat) (exponent : Int) : String :=
  let digits := Numeral.digitsOf coefficient
  let point : Int := digits.length + exponent
  if exponent ≤ 0 ∧ point - 1 ≥ -6 then
    if exponent = 0 then
      String.ofList digits
    else if point > 0 then
      String.ofList (digits.take point.toNat) ++ "." ++ String.ofList (digits.drop point.toNat)
    else
      "0." ++ String.ofList (List.replicate (-point).toNat '0' ++ digits)
  else
    let fraction := digits.drop 1
    String.ofList (digits.take 1)
      ++ (if fraction.isEmpty then "" else "." ++ String.ofList fraction)
      ++ (if point - 1 < 0 then "E-" else "E+")
      ++ Numeral.ofNat (point - 1).natAbs

/-- The text of a decimal number. -/
def text : Decimal → String
  | .finite negative coefficient exponent =>
      signText negative ++ magnitudeText coefficient exponent
  | .infinite negative => signText negative ++ "Infinity"
  | .nan negative signaling payload =>
      signText negative ++ (if signaling then "sNaN" else "NaN")
        ++ (if payload = 0 then "" else Numeral.ofNat payload)

/-- The magnitude of a finite number as a quotient. -/
def magnitude (coefficient : Nat) (exponent : Int) : Fraction :=
  Fraction.scaled 10 exponent ⟨coefficient, 1⟩

/-- The integer that a number equals, if it equals one. -/
def toInt? : Decimal → Option Int
  | .finite negative coefficient exponent =>
      let value := magnitude coefficient exponent
      if value.numerator % value.denominator = 0 then
        let whole : Int := (value.numerator / value.denominator : Nat)
        some (if negative then -whole else whole)
      else
        none
  | _ => none

/-- The floating-point value nearest to a number. -/
def toBinary64 : Decimal → Binary64
  | .finite negative coefficient exponent => .ofDecimal negative coefficient exponent
  | .infinite negative => .infinite negative
  | .nan .. => .nan

end Decimal

end QueryGateway
