import QueryGateway.Number.Binary64
import QueryGateway.Number.Numeral

/-!
# Shortest decimal text of a floating-point value

`Shortest.decimal` finds the decimal of fewest digits that rounds to a value,
and of those the one nearest to it.  A decimal with unit `10 ^ k` is a multiple
of that power, so the search goes through the powers downward and stops at the
first one that has a multiple in the interval of numbers that round to the
value; only the two multiples beside the value need to be looked at.
`Binary64.text` lays the digits out.
-/

namespace QueryGateway

/-- A positive decimal `digits * 10 ^ exponent`. -/
structure ScaledDecimal where
  digits : Nat
  exponent : Int
  deriving Repr, DecidableEq

namespace Shortest

/-- The numbers that round to one value, as multiples of a quarter of its unit. -/
structure Interval where
  low : Nat
  value : Nat
  high : Nat
  unit : Int
  closed : Bool

/-- The interval of a positive value.  The neighbour below a power of two is half as far away as
the one above; the ends belong to the interval if the mantissa is even. -/
def Interval.of (mantissa : Nat) (exponent : Int) : Interval where
  low :=
    if mantissa = Nat.pow 2 (Binary64.precision - 1) ∧ exponent > Binary64.minExponent then
      4 * mantissa - 1
    else
      4 * mantissa - 2
  value := 4 * mantissa
  high := 4 * mantissa + 2
  unit := exponent - 2
  closed := mantissa % 2 = 0

/-- Whether a multiple of a power of ten lies in an interval. -/
def Interval.holds (interval : Interval) (multiple : Nat) (power : Int) : Bool :=
  let point := Fraction.scaled 10 power ⟨multiple, 1⟩
  let low := Fraction.scaled 2 interval.unit ⟨interval.low, 1⟩
  let high := Fraction.scaled 2 interval.unit ⟨interval.high, 1⟩
  if interval.closed then
    low.le point && point.le high
  else
    !point.le low && !high.le point

/-- The multiple of a power of ten nearest to the value, if one of the two beside the value lies
in the interval; of two equally near ones the even one. -/
def Interval.multiple? (interval : Interval) (power : Int) : Option Nat :=
  let ratio := Fraction.scaled 10 (-power) (Fraction.scaled 2 interval.unit ⟨interval.value, 1⟩)
  let below := ratio.numerator / ratio.denominator
  let nearest := ratio.nearest
  let other := if nearest = below then below + 1 else below
  if interval.holds nearest power then some nearest
  else if interval.holds other power then some other
  else none

/-- The first power with a multiple in the interval, among `fuel` powers downward. -/
def search (interval : Interval) : Nat → Int → ScaledDecimal
  | 0, power => ⟨0, power⟩
  | fuel + 1, power =>
      match interval.multiple? power with
      | some digits => ⟨digits, power⟩
      | none => search interval fuel (power - 1)

/-- The decimal of fewest digits that rounds to a positive value.  Seventeen digits always
suffice, and the first power tried is at most two above that of the leading digit. -/
def decimal (mantissa : Nat) (exponent : Int) : ScaledDecimal :=
  let binary : Int := Nat.log2 mantissa + exponent
  search (.of mantissa exponent) 24 (binary * 30103 / 100000 + 2)

end Shortest

/-- The text of a decimal: positional while the leading digit stands at `10 ^ -4` up to
`10 ^ 15`, always with a fraction; beyond that in scientific form with an exponent of at least
two digits. -/
def ScaledDecimal.text (value : ScaledDecimal) : String :=
  let digits := Numeral.digitsOf value.digits
  let point : Int := digits.length + value.exponent
  if -4 ≤ point - 1 ∧ point - 1 < 16 then
    if value.exponent ≥ 0 then
      String.ofList (digits ++ List.replicate value.exponent.toNat '0') ++ ".0"
    else if point > 0 then
      String.ofList (digits.take point.toNat) ++ "." ++ String.ofList (digits.drop point.toNat)
    else
      "0." ++ String.ofList (List.replicate (-point).toNat '0' ++ digits)
  else
    let fraction := digits.drop 1
    String.ofList (digits.take 1)
      ++ (if fraction.isEmpty then "" else "." ++ String.ofList fraction)
      ++ (if point - 1 < 0 then "e-" else "e+")
      ++ Numeral.padded 2 (point - 1).natAbs

namespace Binary64

/-- The text of a value without its sign. -/
def magnitudeText (mantissa : Nat) (exponent : Int) : String :=
  if mantissa = 0 then "0.0" else (Shortest.decimal mantissa exponent).text

/-- The shortest text that reads back as the value. -/
def text : Binary64 → String
  | .finite negative mantissa exponent =>
      (if negative then "-" else "") ++ magnitudeText mantissa exponent
  | .infinite negative => if negative then "-inf" else "inf"
  | .nan => "nan"

/-- The text of a value with two places after the point, a half going to the even neighbour. -/
def centsText : Binary64 → String
  | .finite negative mantissa exponent =>
      let value := magnitude mantissa exponent
      let cents := Fraction.nearest ⟨value.numerator * 100, value.denominator⟩
      (if negative then "-" else "") ++ Numeral.ofNat (cents / 100) ++ "."
        ++ Numeral.padded 2 (cents % 100)
  | value => value.text

end Binary64

end QueryGateway
