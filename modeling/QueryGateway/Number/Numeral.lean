import QueryGateway.Text.Digit

/-!
# Decimal numerals

The text of an integer and the value of a run of digits.  Text forms are
bounded: an integer of more digits than the bound has no text where a bounded
form is asked for.
-/

namespace QueryGateway.Numeral

/-- The decimal digits of a natural number, most significant first. -/
def digitsOf (n : Nat) : List Char :=
  Nat.toDigits 10 n

/-- The decimal text of a natural number. -/
def ofNat (n : Nat) : String :=
  String.ofList (digitsOf n)

/-- The decimal text of an integer. -/
def ofInt : Int → String
  | .ofNat n => ofNat n
  | .negSucc n => "-" ++ ofNat (n + 1)

/-- Two to the power of 63, which no integer of 64 bits with a sign reaches. -/
def wordBound : Int := 9223372036854775808

/-- The greatest number of digits an integer may have where it becomes text. -/
def digitBound : Nat := 4300

/-- Whether an integer has few enough digits to become text. -/
def isWritable (n : Int) : Bool :=
  n.natAbs < Nat.pow 10 digitBound

/-- A number of at most four digits becomes text. -/
theorem isWritable_of_lt
    {n : Int}
    (small : n.natAbs < Nat.pow 10 4) :
    isWritable n = true := by
  have bound
      (digits : Nat)
      (enough : 4 ≤ digits) :
      Nat.pow 10 4 ≤ Nat.pow 10 digits :=
    Nat.pow_le_pow_right (by decide) enough
  exact decide_eq_true (Nat.lt_of_lt_of_le small (bound _ (by decide)))

/-- The least number that has too many digits to become text. -/
theorem isWritable_pow_digitBound :
    isWritable (Int.pow 10 digitBound) = false := by
  have size (digits : Nat) : (Int.pow 10 digits).natAbs = Nat.pow 10 digits :=
    Int.natAbs_pow 10 digits
  apply decide_eq_false
  rw [size]
  exact Nat.lt_irrefl _

/-- One less than that is positive. -/
theorem one_le_pow_digitBound_sub_one :
    1 ≤ Int.pow 10 digitBound - 1 := by
  have large (digits : Nat) : 10 ≤ Int.pow 10 (digits + 1) := by
    have power : (0 : Int) < Int.pow 10 digits := Int.pow_pos (by decide)
    change 10 ≤ Int.pow 10 digits * 10
    omega
  have power : 10 ≤ Int.pow 10 digitBound := large 4299
  omega

/-- The description of an integer that has too many digits to become text. -/
def unwritableMessage : String :=
  "Exceeds the limit (" ++ ofNat digitBound
    ++ " digits) for integer string conversion; use sys.set_int_max_str_digits() to increase the limit"

/-- The description of a numeral that has too many digits to be read. -/
def unreadableMessage (digits : Nat) : String :=
  "Exceeds the limit (" ++ ofNat digitBound
    ++ " digits) for integer string conversion: value has " ++ ofNat digits
    ++ " digits; use sys.set_int_max_str_digits() to increase the limit"

/-- The value of a run of digits of any script; other characters count as zero. -/
def valueOf (digits : List Char) : Nat :=
  digits.foldl (fun value c => value * 10 + (Text.decimalDigit? c).getD 0) 0

/-- A natural number in at least `width` digits. -/
def padded (width n : Nat) : String :=
  let digits := digitsOf n
  String.ofList (List.replicate (width - digits.length) '0' ++ digits)

end QueryGateway.Numeral
