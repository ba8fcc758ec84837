import QueryGateway.Sql.Dialect
import QueryGateway.Value.Display

/-!
# Data sources

A server with a database on it, and how to log in there.
-/

namespace QueryGateway

open Sql

/-- What identifies a source: a number or a text.  A number and the text of its digits are
different. -/
inductive SourceId where
  | number (value : Int)
  | text (value : String)
  deriving Repr, DecidableEq

namespace SourceId

/-- The text of an identifier. -/
def shown : SourceId → String
  | .number value => Numeral.ofInt value
  | .text value => value

/-- An identifier as a value. -/
def toValue : SourceId → Value
  | .number value => .int value
  | .text value => .text value

/-- The identifier that is equal to a value: a text, or a number of any type without a
fraction. -/
def ofValue? : Value → Option SourceId
  | .text value => some (.text value)
  | value =>
      match value.exactNumber? with
      | some (numerator, denominator) =>
          if numerator % denominator = 0 then some (.number (numerator / denominator)) else none
      | none => none

/-- Whether an identifier is short enough to be written. -/
def isWritable : SourceId → Bool
  | .number value => Numeral.isWritable value
  | .text _ => true

/-- The order in which identifiers are listed: numbers before texts, each among themselves. -/
def precedes : SourceId → SourceId → Bool
  | .number left, .number right => left ≤ right
  | .number _, .text _ => true
  | .text _, .number _ => false
  | .text left, .text right => left ≤ right

@[simp]
theorem ofValue?_toValue
    (id : SourceId) :
    ofValue? id.toValue = some id := by
  cases id <;> simp [toValue, ofValue?, Value.exactNumber?]

end SourceId

/-- A data source. -/
structure DataSource where
  id : SourceId
  engine : EngineType
  host : String
  port : Option Int
  database : String
  username : Option String
  password : Option String
  schema : Option String
  options : List (String × Value)
  deriving Repr

namespace DataSource

/-- A port that was chosen; zero leaves the choice open. -/
def chosenPort (source : DataSource) : Option Int :=
  source.port.filter fun port => port ≠ 0

/-- A schema that was chosen; the empty name leaves the choice open. -/
def chosenSchema (source : DataSource) : Option String :=
  source.schema.filter fun schema => !schema.isEmpty

/-- Whether the port of a source, if one was chosen, is short enough to be written. -/
def hasWritablePort (source : DataSource) : Bool :=
  (source.chosenPort.map Numeral.isWritable).getD true

/-- Where a source is, without how to log in. -/
def description (source : DataSource) : String :=
  let port := (source.chosenPort.map fun port => ":" ++ Numeral.ofInt port).getD ""
  source.engine.name ++ " " ++ source.host ++ port ++ "/" ++ source.database

/-- The description of a source, unless its port is too long to be written. -/
def describe? (source : DataSource) : Option String :=
  if source.hasWritablePort then some source.description else none

end DataSource

/-- The schema or database whose tables a dialect lists. -/
def Sql.Dialect.catalogScope (dialect : Dialect) (source : DataSource) : String :=
  match dialect with
  | .postgres => source.chosenSchema.getD "public"
  | .clickHouse _ => source.database

end QueryGateway
