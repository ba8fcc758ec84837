import QueryGateway.Document.Issue
import QueryGateway.Number.Reading
import QueryGateway.Text.Utf8
import QueryGateway.Value.Basic

/-!
# Scalar fields

How a value of a document is read as a scalar of a wanted type.  Reading is
lenient where nothing is lost: a number of another type is taken if it is equal
to one of the wanted type, and a text if it is a numeral or a word for it.
-/

namespace QueryGateway.Document

/-- The text that a value is read through where a numeral or a word is allowed; bytes stand for
the text they encode. -/
inductive Wording where
  | text (cs : List Char)
  | undecodable
  | none

/-- The wording of a value. -/
def wordingOf : Value → Wording
  | .text value => .text value.toList
  | .bytes .immutable data =>
      match Text.ofUtf8? data with
      | some value => .text value.toList
      | none => .undecodable
  | _ => .none

/-- Read a text. -/
def readText : Value → Checked String
  | .text value => .ok value
  | .bytes .view _ => .issue .stringType
  | .bytes _ data =>
      match Text.ofUtf8? data with
      | some value => .ok value
      | none => .issue .stringUnicode
  | _ => .issue .stringType

/-- The words for a truth value in lower case. -/
def truthWords : List (String × Bool) :=
  [("0", false), ("off", false), ("f", false), ("false", false), ("n", false), ("no", false),
    ("1", true), ("on", true), ("t", true), ("true", true), ("y", true), ("yes", true)]

/-- The truth value that a word stands for, in any ASCII case. -/
def truthOfWord? (cs : List Char) : Option Bool :=
  truthWords.lookup (Numeral.lowered cs)

/-- The truth value that an integer stands for. -/
def truthOfInt (n : Int) : Checked Bool :=
  if n = 0 then .ok false else if n = 1 then .ok true else .issue .boolParsing

/-- Read an integer from a floating-point number inside the range of 64 bits. -/
def readIntFloat (x : Binary64) : Checked Int :=
  if !x.isFinite then .issue .finiteNumber
  else
    match x.toInt? with
    | some n =>
        if -Numeral.wordBound < n ∧ n < Numeral.wordBound then .ok n
        else .issue .intParsingSize
    | none => .issue .intFromFloat

/-- The truth value that a floating-point number stands for; only an integer of 64 bits may stand
for one at all. -/
def truthOfFloat (x : Binary64) : Checked Bool :=
  match readIntFloat x with
  | .ok n => truthOfInt n
  | .error _ => .issue .boolType

/-- Read a truth value.  A decimal number counts as the nearest floating-point number. -/
def readBool (value : Value) : Checked Bool :=
  match wordingOf value with
  | .undecodable => .issue .boolParsing
  | .text cs =>
      match truthOfWord? cs with
      | some truth => .ok truth
      | none => .issue .boolParsing
  | .none =>
      match value with
      | .bool truth => .ok truth
      | .int n =>
          if -Numeral.wordBound ≤ n ∧ n < Numeral.wordBound then truthOfInt n
          else .issue .boolType
      | .float x => truthOfFloat x
      | .decimal x => truthOfFloat x.toBinary64
      | _ => .issue .boolType

/-- The text without the low lines in it; one may not stand at an end or beside another. -/
def withoutLowLines? (cs : List Char) : Option (List Char) :=
  let runs := cs.splitOn '_'
  if runs.length > 1 && runs.any List.isEmpty then none else some runs.flatten

/-- The text without a fraction that consists of zeros. -/
def withoutZeroFraction? (cs : List Char) : Option (List Char) :=
  match cs.dropWhile (· ≠ '.') with
  | [] => some cs
  | _ :: fraction =>
      if !fraction.isEmpty && fraction.all (· = '0') then some (cs.takeWhile (· ≠ '.')) else none

/-- What is left of a numeral behind zeros and low lines at its front, given the last of these.
That one stays if nothing or a point follows. -/
def afterZeros? : Char → List Char → Option (List Char)
  | last, [] => some [last]
  | last, c :: rest =>
      if c = '0' || c = '_' then afterZeros? c rest
      else if c = '.' then some (last :: c :: rest)
      else if c.isDigit || c = '-' then some (c :: rest)
      else none

/-- A numeral without the zeros at its front.  A minus sign may stand behind them. -/
def withoutZeros? : List Char → Option (List Char)
  | [] => none
  | c :: rest =>
      if c = '0' then afterZeros? c rest
      else if c.isDigit || c = '-' then some (c :: rest)
      else none

/-- A numeral without the zeros at its front, a fraction of zeros, and single low lines. -/
def withoutPadding? (cs : List Char) : Option (List Char) :=
  ((withoutZeros? cs).bind withoutZeroFraction?).bind withoutLowLines?

/-- An integer numeral in its plainest form: without white space around it, a plus sign, and
padding. -/
def plainNumeral? (cs : List Char) : Option (List Char) :=
  match Text.trimWhiteSpace cs with
  | '+' :: '-' :: _ => none
  | '+' :: rest => withoutPadding? rest
  | '-' :: rest => (withoutPadding? rest).map ('-' :: ·)
  | rest => withoutPadding? rest

/-- Read an integer from a numeral in its plainest form: perhaps a minus sign, then digits of which
the first is no zero unless it is the only one.  The sign counts toward the greatest length. -/
def readPlainInt (cs : List Char) : Checked Int :=
  let (negative, body) := Numeral.splitSign cs
  let digits := body.takeWhile Char.isDigit
  let complete := digits.length = body.length
  match digits with
  | [] => .issue .intParsing
  | '0' :: rest => if complete && rest.isEmpty then .ok 0 else .issue .intParsing
  | digits =>
      if digits.length + (if negative then 1 else 0) > Numeral.digitBound then
        .issue .intParsingSize
      else if complete then
        let magnitude : Int := Numeral.valueOf digits
        .ok (if negative then -magnitude else magnitude)
      else
        .issue .intParsing

/-- Read an integer from a numeral. -/
def readIntText (cs : List Char) : Checked Int :=
  match plainNumeral? cs with
  | some plain => readPlainInt plain
  | none => .issue .intParsing

/-- Read an integer from a decimal number. -/
def readIntDecimal (x : Decimal) : Checked Int :=
  if !x.isFinite then .issue .finiteNumber
  else
    match x.toInt? with
    | some n => .ok n
    | none => .issue .intFromFloat

/-- Read an integer. -/
def readInt (value : Value) : Checked Int :=
  match wordingOf value with
  | .undecodable => .issue .intParsing
  | .text cs => readIntText cs
  | .none =>
      match value with
      | .bool truth => .ok (if truth then 1 else 0)
      | .int n => .ok n
      | .float x => readIntFloat x
      | .decimal x => readIntDecimal x
      | _ => .issue .intType

/-- Read a floating-point number from a numeral.  White space may stand around it, or low lines in
it, but not both. -/
def readFloatText (cs : List Char) : Checked Binary64 :=
  match (Binary64.ofText? (Text.trimWhiteSpace cs)).or
      ((withoutLowLines? cs).bind Binary64.ofText?) with
  | some x => .ok x
  | none => .issue .floatParsing

/-- Read a floating-point number. -/
def readFloat (value : Value) : Checked Binary64 :=
  match wordingOf value with
  | .undecodable => .issue .floatParsing
  | .text cs => readFloatText cs
  | .none =>
      match value with
      | .bool truth => .ok (.ofInt (if truth then 1 else 0))
      | .int n => if (Binary64.ofInt n).isFinite then .ok (.ofInt n) else .issue .floatType
      | .float x => .ok x
      | .decimal (.nan _ true _) => .issue .floatType
      | .decimal x => .ok x.toBinary64
      | _ => .issue .floatType

/-- Read one of several named choices; bytes may encode the name. -/
def readChoice {α : Type} (choices : List α) (nameOf : α → String) (value : Value) : Checked α :=
  let found :=
    match readText value with
    | .ok name => choices.find? fun choice => nameOf choice = name
    | .error _ => none
  match found with
  | some choice => .ok choice
  | none => .issue (.notOneOf (choices.map nameOf))

/-- Read a value that may be nothing. -/
def readOptional {α : Type} (read : Value → Checked α) (value : Value) : Checked (Option α) :=
  match value with
  | .null => .ok none
  | value => (read value).map some

/-- A byte as a value. -/
def ofByte (byte : UInt8) : Value := .int byte.toNat

/-- The items of a container of any kind.  A view of bytes is a container of numbers. -/
def itemsOf? : Value → Option (List Value)
  | .sequence _ items => some items
  | .bytes .view data => some (data.map ofByte)
  | _ => none

/-- Read the items of a container, or refuse a value that is none. -/
def readItems {α : Type}
    (refusal : IssueKind)
    (read : Value → Checked α)
    (value : Value) :
    Checked (List α) :=
  match itemsOf? value with
  | some items => Checked.indexed read 0 items
  | none => .issue refusal

/-! ## Bounds -/

/-- An integer that is not below a bound. -/
def boundBelow (low : Nat) (n : Int) : Checked Int :=
  if n < low then .issue (.tooSmall low) else .ok n

/-- An integer between two bounds. -/
def boundBoth (low high : Nat) (n : Int) : Checked Int :=
  if n > high then .issue (.tooGreat high) else boundBelow low n

/-- A positive number up to a bound; `nan` is not. -/
def boundFloat (high : Nat) (x : Binary64) : Checked Binary64 :=
  if x.isAtMost 0 then .issue (.notGreater 0)
  else if x.isAtMost high then .ok x
  else .issue (.tooGreat high)

end QueryGateway.Document
