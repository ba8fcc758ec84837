import QueryGateway.Number.Shortest
import QueryGateway.Text.Quoted
import QueryGateway.Value.Basic

/-!
# Showing values in messages

Two forms.  The *display form* names the type of a value where its text alone
would not, quotes texts, and brackets containers by their kind.  The *plain
form* is the bare text of a scalar and the display form of everything else.
-/

namespace QueryGateway.Value

/-- The name of a value's type. -/
def kindName : Value → String
  | .null => "NoneType"
  | .bool _ => "bool"
  | .int _ => "int"
  | .float _ => "float"
  | .decimal _ => "Decimal"
  | .text _ => "str"
  | .textual (.date _) => "date"
  | .textual (.dateTime _) => "datetime"
  | .textual (.time _) => "time"
  | .textual (.uuid _) => "UUID"
  | .bytes .immutable _ => "bytes"
  | .bytes .mutable _ => "bytearray"
  | .bytes .view _ => "memoryview"
  | .typeName _ => "type"
  | .foreign _ => "Opaque"
  | .sequence .list _ => "list"
  | .sequence .tuple _ => "tuple"
  | .sequence .set _ => "set"
  | .sequence .frozenSet _ => "frozenset"
  | .mapping _ => "dict"

/-- The text of a truth value. -/
def boolText (value : Bool) : String :=
  if value then "True" else "False"

/-- The display form of a byte string. -/
def displayBytes (kind : BytesKind) (data : List UInt8) : String :=
  match kind with
  | .immutable => Text.displayBytes false data
  | .mutable => "bytearray(" ++ Text.displayBytes true data ++ ")"
  | .view => "<memory>"

/-- The display form of an offset from universal time. -/
def displayOffset (offset : Int) : String :=
  if offset = 0 then
    "datetime.timezone.utc"
  else
    let days := offset / 86400
    let seconds := offset % 86400
    let parts :=
      (if days = 0 then [] else ["days=" ++ Numeral.ofInt days])
        ++ (if seconds = 0 then [] else ["seconds=" ++ Numeral.ofInt seconds])
    "datetime.timezone(datetime.timedelta(" ++ ", ".intercalate parts ++ "))"

/-- The arguments that show a day. -/
def dateArguments (date : Date) : List String :=
  [date.year, date.month, date.day].map Numeral.ofNat

/-- The arguments that show a time of day; seconds and microseconds only as far as needed. -/
def timeArguments (time : ClockTime) : List String :=
  let fine :=
    if time.microsecond ≠ 0 then [time.second, time.microsecond]
    else if time.second ≠ 0 then [time.second]
    else []
  ([time.hour, time.minute] ++ fine).map Numeral.ofNat
    ++ (time.offset.map fun offset => "tzinfo=" ++ displayOffset offset).toList

/-- The display form of a date, a time or a unique identifier. -/
def displayTextual : Textual → String
  | .date date => "datetime.date(" ++ ", ".intercalate (dateArguments date) ++ ")"
  | .dateTime moment =>
      "datetime.datetime("
        ++ ", ".intercalate (dateArguments moment.date ++ timeArguments moment.time) ++ ")"
  | .time time => "datetime.time(" ++ ", ".intercalate (timeArguments time) ++ ")"
  | .uuid uuid => "UUID('" ++ uuid.text ++ "')"

/-- The brackets around the items of a container; an empty set has no bracket form, and a tuple of
one item keeps a comma. -/
def bracket (kind : SequenceKind) (items : List String) : String :=
  let inner := ", ".intercalate items
  match kind, items with
  | .list, _ => "[" ++ inner ++ "]"
  | .tuple, [_] => "(" ++ inner ++ ",)"
  | .tuple, _ => "(" ++ inner ++ ")"
  | .set, [] => "set()"
  | .set, _ => "\x7b" ++ inner ++ "\x7d"
  | .frozenSet, [] => "frozenset()"
  | .frozenSet, _ => "frozenset(\x7b" ++ inner ++ "\x7d)"

mutual

/-- The display form of a value. -/
def display : Value → String
  | .null => "None"
  | .bool value => boolText value
  | .int value => Numeral.ofInt value
  | .float value => value.text
  | .decimal value => "Decimal('" ++ value.text ++ "')"
  | .text value => Text.display value
  | .textual value => displayTextual value
  | .bytes kind data => displayBytes kind data
  | .typeName name => "<class '" ++ name ++ "'>"
  | .foreign shown => "<Opaque " ++ shown ++ ">"
  | .sequence kind items => bracket kind (displayItems items)
  | .mapping entries => "\x7b" ++ ", ".intercalate (displayEntries entries) ++ "\x7d"

/-- The display forms of the items of a container. -/
def displayItems : List Value → List String
  | [] => []
  | value :: rest => value.display :: displayItems rest

/-- The display forms of the entries of a mapping. -/
def displayEntries : List (Value × Value) → List String
  | [] => []
  | (key, value) :: rest => (key.display ++ ": " ++ value.display) :: displayEntries rest

end

/-- The plain form of a value. -/
def plainText : Value → String
  | .text value => value
  | .decimal value => value.text
  | .textual value => value.plainText
  | .foreign shown => shown
  | value => value.display

mutual

/-- Whether all integers in a value, at any depth, are short enough to be written. -/
def hasShortIntegers : Value → Bool
  | .int value => Numeral.isWritable value
  | .sequence _ items => haveShortIntegers items
  | .mapping entries => haveShortIntegersEntries entries
  | .null | .bool _ | .float _ | .decimal _ | .text _ | .textual _ | .bytes .. | .typeName _
  | .foreign _ => true

/-- Whether all integers in the values of a list are short enough to be written. -/
def haveShortIntegers : List Value → Bool
  | [] => true
  | value :: rest => value.hasShortIntegers && haveShortIntegers rest

/-- Whether all integers in the keys and the values of a mapping are short enough to be written. -/
def haveShortIntegersEntries : List (Value × Value) → Bool
  | [] => true
  | (key, value) :: rest =>
      key.hasShortIntegers && value.hasShortIntegers && haveShortIntegersEntries rest

end

theorem haveShortIntegers_eq_all
    (values : List Value) :
    haveShortIntegers values = values.all hasShortIntegers := by
  induction values with
  | nil => rfl
  | cons value rest hypothesis => simp [haveShortIntegers, hypothesis]

/-- The plain form of a value, unless an integer in it is too long to be written. -/
def plainText? (value : Value) : Option String :=
  if value.hasShortIntegers then some value.plainText else none

end QueryGateway.Value
