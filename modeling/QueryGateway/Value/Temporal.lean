import QueryGateway.Number.Numeral
import QueryGateway.Text.Hex

/-!
# Dates, times and unique identifiers

The scalar values that stand in a statement by their text.  Times may carry an
offset from universal time.  The text is the extended calendar format with
seconds always, microseconds only if there are any, and the offset if it is
known.
-/

namespace QueryGateway

/-- A day of the calendar. -/
structure Date where
  year : Nat
  month : Nat
  day : Nat
  deriving Repr, DecidableEq

/-- A time of day with an optional offset in seconds from universal time. -/
structure ClockTime where
  hour : Nat
  minute : Nat
  second : Nat
  microsecond : Nat
  offset : Option Int
  deriving Repr, DecidableEq

/-- A time of day on a day of the calendar. -/
structure DateTime where
  date : Date
  time : ClockTime
  deriving Repr, DecidableEq

/-- A unique identifier of 128 bits. -/
structure Uuid where
  value : Nat
  deriving Repr, DecidableEq

/-- A scalar value that stands in a statement by its text. -/
inductive Textual where
  | date (date : Date)
  | dateTime (dateTime : DateTime)
  | time (time : ClockTime)
  | uuid (uuid : Uuid)
  deriving Repr, DecidableEq

open Numeral in
/-- The text of a day. -/
def Date.text (date : Date) : String :=
  padded 4 date.year ++ "-" ++ padded 2 date.month ++ "-" ++ padded 2 date.day

namespace ClockTime

open Numeral

/-- The text of an offset; its seconds are shown only if there are any. -/
def offsetText (offset : Int) : String :=
  let seconds := offset.natAbs
  (if offset < 0 then "-" else "+") ++ padded 2 (seconds / 3600) ++ ":"
    ++ padded 2 (seconds / 60 % 60)
    ++ (if seconds % 60 = 0 then "" else ":" ++ padded 2 (seconds % 60))

/-- The text of a time of day. -/
def text (time : ClockTime) : String :=
  padded 2 time.hour ++ ":" ++ padded 2 time.minute ++ ":" ++ padded 2 time.second
    ++ (if time.microsecond = 0 then "" else "." ++ padded 6 time.microsecond)
    ++ (time.offset.map offsetText).getD ""

end ClockTime

/-- The text of a time on a day, with a chosen mark between the two. -/
def DateTime.text (dateTime : DateTime) (separator : String) : String :=
  dateTime.date.text ++ separator ++ dateTime.time.text

/-- The text of a unique identifier: five groups of lower-case digits. -/
def Uuid.text (uuid : Uuid) : String :=
  let digits := Text.hexDigits 32 uuid.value
  let group (start length : Nat) := String.ofList ((digits.drop start).take length)
  "-".intercalate [group 0 8, group 8 4, group 12 4, group 16 4, group 20 12]

/-! ## Moments -/

/-- How many days lie before a day of the calendar, leap years reckoned back to the year one. -/
def Date.dayNumber (date : Date) : Nat :=
  let isLeap : Bool := date.year % 4 = 0 && (date.year % 100 ≠ 0 || date.year % 400 = 0)
  let lengths := [31, if isLeap then 29 else 28, 31, 30, 31, 30, 31, 31, 30, 31, 30, 31]
  let years := date.year - 1
  years * 365 + years / 4 - years / 100 + years / 400 + (lengths.take (date.month - 1)).foldl (· + ·) 0
    + (date.day - 1)

/-- The microseconds from midnight of universal time to a time of day whose offset is known. -/
def ClockTime.moment? (time : ClockTime) : Option Int :=
  time.offset.map fun offset =>
    ((time.hour * 3600 + time.minute * 60 + time.second : Nat) - offset) * 1000000
      + time.microsecond

/-- The microseconds from the start of the calendar in universal time, if the offset is known. -/
def DateTime.moment? (dateTime : DateTime) : Option Int :=
  dateTime.time.moment?.map fun moment => dateTime.date.dayNumber * 86400000000 + moment

namespace Textual

/-- Whether two values coincide: they are the same, or times whose known offsets put them at the
same moment. -/
def coincides : Textual → Textual → Bool
  | .dateTime left, .dateTime right =>
      left = right || (left.moment?.isSome && left.moment? = right.moment?)
  | .time left, .time right =>
      left = right || (left.moment?.isSome && left.moment? = right.moment?)
  | left, right => left = right

/-- The canonical text of a value. -/
def text : Textual → String
  | .date day => day.text
  | .dateTime moment => moment.text "T"
  | .time clock => clock.text
  | .uuid identifier => identifier.text

/-- The text of a value in running prose, where a blank stands between a day and a time. -/
def plainText : Textual → String
  | .dateTime moment => moment.text " "
  | value => value.text

end Textual

/-! ## Reading -/

namespace Date

/-- Read a day from the front of a text. -/
def readFrom? : List Char → Option (Date × List Char)
  | y₁ :: y₂ :: y₃ :: y₄ :: '-' :: m₁ :: m₂ :: '-' :: d₁ :: d₂ :: rest =>
      some (⟨Numeral.valueOf [y₁, y₂, y₃, y₄], Numeral.valueOf [m₁, m₂],
        Numeral.valueOf [d₁, d₂]⟩, rest)
  | _ => none

/-- Read a day. -/
def ofText? (text : String) : Option Date :=
  (readFrom? text.toList).map (·.1)

end Date

namespace ClockTime

/-- Read groups of two digits between colons. -/
def readGroups : List Char → List Nat × List Char
  | high :: low :: ':' :: rest =>
      let (groups, rest) := readGroups rest
      (Numeral.valueOf [high, low] :: groups, rest)
  | high :: low :: rest => ([Numeral.valueOf [high, low]], rest)
  | rest => ([], rest)

/-- Read an offset from universal time. -/
def readOffset? : List Char → Option Int
  | 'Z' :: _ => some 0
  | mark :: rest =>
      let groups := (readGroups rest).1
      let seconds : Int :=
        (groups.getD 0 0) * 3600 + (groups.getD 1 0) * 60 + groups.getD 2 0
      if mark = '-' then some (-seconds) else if mark = '+' then some seconds else none
  | [] => none

/-- Read a time of day: hours and minutes, optional seconds, an optional fraction of at most six
digits, an optional offset. -/
def ofChars (cs : List Char) : ClockTime :=
  let (groups, rest) := readGroups cs
  let (fraction, rest) :=
    match rest with
    | '.' :: rest => (rest.takeWhile Char.isDigit, rest.dropWhile Char.isDigit)
    | rest => ([], rest)
  let places := fraction.take 6
  { hour := groups.getD 0 0
    minute := groups.getD 1 0
    second := groups.getD 2 0
    microsecond := Numeral.valueOf (places ++ List.replicate (6 - places.length) '0')
    offset := readOffset? rest }

end ClockTime

/-- Read a day and a time with one mark between them; a day alone is its midnight. -/
def DateTime.ofText? (text : String) : Option DateTime :=
  (Date.readFrom? text.toList).map fun (date, rest) => ⟨date, .ofChars (rest.drop 1)⟩

/-- Read a unique identifier, whatever marks stand around and between its digits. -/
def Uuid.ofText (text : String) : Uuid :=
  let name := (text.replace "urn:" "").replace "uuid:" ""
  let digits := name.toList.filter fun c => (Text.hexDigit? c).isSome
  ⟨(Text.hexValue? digits).getD 0⟩

end QueryGateway
