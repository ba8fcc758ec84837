/-!
# Hexadecimal text

Digits, fixed-width numerals and byte strings in base sixteen, written in lower
case and read in either case.
-/

namespace QueryGateway.Text

/-- The lower-case digit of a value below sixteen. -/
def hexDigit (value : Nat) : Char :=
  Nat.digitChar (value % 16)

/-- The value of a hexadecimal digit. -/
def hexDigit? (c : Char) : Option Nat :=
  if '0' ≤ c && c ≤ '9' then some (c.toNat - '0'.toNat)
  else if 'a' ≤ c && c ≤ 'f' then some (c.toNat - 'a'.toNat + 10)
  else if 'A' ≤ c && c ≤ 'F' then some (c.toNat - 'A'.toNat + 10)
  else none

/-- The lowest `width` hexadecimal digits of a number, most significant first. -/
def hexDigits : Nat → Nat → List Char
  | 0, _ => []
  | width + 1, n => hexDigits width (n / 16) ++ [hexDigit n]

/-- The number that hexadecimal digits stand for. -/
def hexValue? (cs : List Char) : Option Nat :=
  cs.foldl (fun value c => value.bind fun n => (hexDigit? c).map (n * 16 + ·)) (some 0)

/-- Two digits for each byte. -/
def hexOfBytes (data : List UInt8) : String :=
  String.ofList (data.flatMap fun byte => hexDigits 2 byte.toNat)

/-- The bytes of a text with two digits for each. -/
def bytesOfHex : List Char → List UInt8
  | high :: low :: rest =>
      .ofNat ((hexDigit? high).getD 0 * 16 + (hexDigit? low).getD 0) :: bytesOfHex rest
  | _ => []

@[simp]
theorem length_hexDigits
    (width n : Nat) :
    (hexDigits width n).length = width := by
  induction width generalizing n with
  | zero => rfl
  | succ width hypothesis => simp [hexDigits, hypothesis]

end QueryGateway.Text
