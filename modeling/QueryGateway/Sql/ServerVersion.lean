import QueryGateway.Number.Numeral

/-!
# Server versions

A version is a list of numbers, compared component by component.  In its text
the components stand between points; everything in a component that is no digit
sign is passed over, and the first component without any ends the version.
-/

namespace QueryGateway.Sql

/-- A release of a server, most significant component first. -/
abbrev ServerVersion := List Int

namespace ServerVersion

/-- Why a text is no version: the digit signs of a component are no numeral, or there are too many
of them. -/
inductive VersionError where
  | noNumeral (signs : String)
  | tooLong (digits : Nat)
  deriving Repr, DecidableEq

/-- How many characters of a component are shown. -/
def shownLength : Nat := 200

/-- The description of an error. -/
def VersionError.message : VersionError → String
  | .noNumeral signs =>
      "invalid literal for int() with base 10: "
        ++ String.ofList (("'" ++ signs ++ "'").toList.take shownLength)
  | .tooLong digits => Numeral.unreadableMessage digits

/-- The number that the digit signs of a component stand for.  Signs that are no decimal digits
stand for none. -/
def ofSigns (signs : List Char) : Except VersionError Int :=
  let digits := signs.takeWhile Text.isDecimalDigit
  if digits.length > Numeral.digitBound then .error (.tooLong digits.length)
  else if signs.all Text.isDecimalDigit then .ok (Numeral.valueOf signs)
  else .error (.noNumeral (String.ofList signs))

/-- The pieces of a text between points. -/
def components (text : List Char) : List (List Char) :=
  text.splitOn '.'

/-- Read components until one has no digit sign. -/
def ofComponents : List (List Char) → Except VersionError ServerVersion
  | [] => .ok []
  | component :: rest =>
      match component.filter Text.isDigitSign with
      | [] => .ok []
      | signs =>
          match ofSigns signs with
          | .ok number => (ofComponents rest).map (number :: ·)
          | .error error => .error error

/-- Read a version. -/
def ofText (text : String) : Except VersionError ServerVersion :=
  ofComponents (components text.toList)

/-- Whether one version is at or after another; of two versions that agree as far as the shorter
one goes the longer one is later. -/
def isAtLeast : ServerVersion → ServerVersion → Bool
  | _, [] => true
  | [], _ :: _ => false
  | left :: lefts, right :: rights =>
      if left = right then isAtLeast lefts rights else left > right

end ServerVersion

end QueryGateway.Sql
