import QueryGateway.Number.Decimal
import QueryGateway.Text.Blank

/-!
# Reading numbers

The grammar of decimal numerals: an optional sign, digits with an optional
point among or beside them, and an optional exponent.  Floating-point and
decimal numbers share it and differ in the words they allow for values that
are no numbers.
-/

namespace QueryGateway.Numeral

/-- A numeral taken apart: `coefficient * 10 ^ exponent` with a sign. -/
structure Parts where
  negative : Bool
  coefficient : Nat
  exponent : Int
  deriving Repr, DecidableEq

/-- Cut a sign off the front of a numeral. -/
def splitSign : List Char → Bool × List Char
  | '-' :: rest => (true, rest)
  | '+' :: rest => (false, rest)
  | cs => (false, cs)

/-- An integer in ASCII digits with an optional sign and nothing else. -/
def integer? (cs : List Char) : Option Int :=
  let (negative, digits) := splitSign cs
  if !digits.isEmpty && digits.all Char.isDigit then
    some (if negative then -(valueOf digits : Int) else valueOf digits)
  else
    none

/-- The exponent that ends a numeral; no text stands for zero. -/
def exponent? : List Char → Option Int
  | [] => some 0
  | c :: rest => if c = 'e' || c = 'E' then integer? rest else none

/-- Take a numeral apart. -/
def parts? (cs : List Char) : Option Parts :=
  let (negative, body) := splitSign cs
  let whole := body.takeWhile Char.isDigit
  let (fraction, rest) :=
    match body.dropWhile Char.isDigit with
    | '.' :: rest => (rest.takeWhile Char.isDigit, rest.dropWhile Char.isDigit)
    | rest => ([], rest)
  if whole.isEmpty && fraction.isEmpty then
    none
  else
    (exponent? rest).map fun exponent =>
      { negative, coefficient := valueOf (whole ++ fraction), exponent := exponent - fraction.length }

/-- The text in ASCII lower case. -/
def lowered (cs : List Char) : String :=
  String.ofList (cs.map Char.toLower)

end QueryGateway.Numeral

namespace QueryGateway

open Numeral

/-- Read a floating-point numeral: a decimal numeral or one of the words for the values that are
no numbers, in any ASCII case. -/
def Binary64.ofText? (cs : List Char) : Option Binary64 :=
  match parts? cs with
  | some parts => some (.ofDecimal parts.negative parts.coefficient parts.exponent)
  | none =>
      let (negative, word) := splitSign cs
      let word := lowered word
      if word = "inf" || word = "infinity" then some (.infinite negative)
      else if word = "nan" then some .nan
      else none

/-- Read a decimal number.  Blanks around it and low lines in it do not count, and digits may be
of any script. -/
def Decimal.ofText? (text : String) : Option Decimal :=
  let ascii (c : Char) : Char :=
    match Text.decimalDigit? c with
    | some digit => Char.ofNat (0x30 + digit)
    | none => c
  let cs := ((Text.trimBlanks text.toList).filter (· ≠ '_')).map ascii
  match parts? cs with
  | some parts => some (.finite parts.negative parts.coefficient parts.exponent)
  | none =>
      let (negative, word) := splitSign cs
      let payload := word.reverse.takeWhile Char.isDigit |>.reverse
      let name := lowered (word.take (word.length - payload.length))
      if payload.isEmpty && (name = "inf" || name = "infinity") then some (.infinite negative)
      else if name = "nan" then some (.nan negative false (valueOf payload))
      else if name = "snan" then some (.nan negative true (valueOf payload))
      else none

end QueryGateway
