/-!
# Numbers in factored form

A whole, binary or decimal number is a natural number times powers of two and
five, with a sign.  Once no factor of two or five is left in the natural number
there is only one such form, so numbers of different kinds are compared without
forming a power.
-/

namespace QueryGateway

/-- A number `core * 2 ^ twos * 5 ^ fives` with a sign.  The core has no factor of two or five, and
zero has neither a sign nor powers. -/
structure Factored where
  negative : Bool
  core : Nat
  twos : Int
  fives : Int
  deriving Repr, DecidableEq

namespace Factored

/-- How often a factor divides a number, and what is left of it. -/
def split (factor n : Nat) : Nat × Nat :=
  if _divides : 1 < factor ∧ 0 < n ∧ n % factor = 0 then
    let (count, rest) := split factor (n / factor)
    (count + 1, rest)
  else
    (0, n)
termination_by n
decreasing_by exact Nat.div_lt_self _divides.2.1 _divides.1

/-- The number `coefficient * 2 ^ twos * 5 ^ fives` with a sign. -/
def of (negative : Bool) (coefficient : Nat) (twos fives : Int) : Factored :=
  if coefficient = 0 then
    ⟨false, 0, 0, 0⟩
  else
    let (two, rest) := split 2 coefficient
    let (five, core) := split 5 rest
    ⟨negative, core, twos + two, fives + five⟩

/-- An integer. -/
def ofInt (n : Int) : Factored := of (n < 0) n.natAbs 0 0

end Factored

end QueryGateway
