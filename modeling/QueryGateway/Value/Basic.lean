import QueryGateway.Number.Decimal
import QueryGateway.Number.Factored
import QueryGateway.Value.Temporal

/-!
# Values

The values that flow through a gateway: fields of a decoded document, literals
of a query, parameters of a statement, and cells that a database driver
returns.  The type is open on purpose, because drivers hand back more than a
statement can hold; `Value.IsClosed` singles out the closed part.
-/

namespace QueryGateway

/-- The three ways to hold a byte string. -/
inductive BytesKind where
  | immutable
  | mutable
  | view
  deriving Repr, DecidableEq

/-- The four containers of values without keys. -/
inductive SequenceKind where
  | list
  | tuple
  | set
  | frozenSet
  deriving Repr, DecidableEq

/-- Whether the order of a container's items means something. -/
def SequenceKind.isOrdered : SequenceKind → Bool
  | .list | .tuple => true
  | .set | .frozenSet => false

/-- A value of a document, a statement or a driver.  `typeName` is a type used as a value and
`foreign` an object of a class that is not known here, with its text. -/
inductive Value where
  | null
  | bool (value : Bool)
  | int (value : Int)
  | float (value : Binary64)
  | decimal (value : Decimal)
  | text (value : String)
  | textual (value : Textual)
  | bytes (kind : BytesKind) (data : List UInt8)
  | typeName (name : String)
  | foreign (text : String)
  | sequence (kind : SequenceKind) (items : List Value)
  | mapping (entries : List (Value × Value))
  deriving Repr

instance : Inhabited Value := ⟨.null⟩

namespace Value

/-- The items of a container as a list value. -/
abbrev list (items : List Value) : Value := .sequence .list items

/-- The parts of a record as a tuple value. -/
abbrev tuple (items : List Value) : Value := .sequence .tuple items

/-- A mapping whose keys are texts. -/
def record (fields : List (String × Value)) : Value :=
  .mapping (fields.map fun (name, value) => (.text name, value))

/-- Whether a value is nothing. -/
def isNull : Value → Bool
  | .null => true
  | _ => false

/-- A text or nothing. -/
def ofText? : Option String → Value
  | some value => .text value
  | none => .null

/-- An integer or nothing. -/
def ofInt? : Option Int → Value
  | some value => .int value
  | none => .null

mutual

/-- Whether a value is of the closed kind that literals and result cells are made of: nothing, a
truth value, an integer, a finite number, a text, or a list of such values. -/
def isClosed : Value → Bool
  | .null | .bool _ | .int _ | .text _ => true
  | .float value => value.isFinite
  | .decimal value => value.isFinite
  | .sequence .list items => areClosed items
  | .sequence _ _ | .textual _ | .bytes .. | .typeName _ | .foreign _ | .mapping _ => false

/-- Whether all values of a list are of the closed kind. -/
def areClosed : List Value → Bool
  | [] => true
  | value :: rest => value.isClosed && areClosed rest

end

theorem areClosed_eq_all
    (values : List Value) :
    areClosed values = values.all isClosed := by
  induction values with
  | nil => rfl
  | cons value rest hypothesis => simp [areClosed, hypothesis]

/-- Whether a value counts as there: nothing, false, zero and what is empty do not. -/
def isSet : Value → Bool
  | .null => false
  | .bool value => value
  | .int value => value ≠ 0
  | .float (.finite _ mantissa _) => mantissa ≠ 0
  | .decimal (.finite _ coefficient _) => coefficient ≠ 0
  | .text value => !value.isEmpty
  | .bytes _ data => !data.isEmpty
  | .sequence _ items => !items.isEmpty
  | .mapping entries => !entries.isEmpty
  | .float _ | .decimal _ | .textual _ | .typeName _ | .foreign _ => true

/-! ## Keys -/

/-- The exact number that a value is, as a numerator and a positive denominator.  A truth value is
the number one or zero. -/
def exactNumber? : Value → Option (Int × Nat)
  | .bool value => some (if value then 1 else 0, 1)
  | .int value => some (value, 1)
  | .float (.finite negative mantissa exponent) =>
      let value := Binary64.magnitude mantissa exponent
      some (if negative then -value.numerator else value.numerator, value.denominator)
  | .decimal (.finite negative coefficient exponent) =>
      let value := Decimal.magnitude coefficient exponent
      some (if negative then -value.numerator else value.numerator, value.denominator)
  | _ => none

/-- The factored form of the number that a value is.  A truth value is the number one or zero. -/
def factored? : Value → Option Factored
  | .bool value => some (.ofInt (if value then 1 else 0))
  | .int value => some (.ofInt value)
  | .float (.finite negative mantissa exponent) => some (.of negative mantissa exponent 0)
  | .decimal (.finite negative coefficient exponent) =>
      some (.of negative coefficient exponent exponent)
  | _ => none

/-- Whether a value is an infinite number, and whether that is the negative one. -/
def infiniteSign? : Value → Option Bool
  | .float (.infinite negative) | .decimal (.infinite negative) => some negative
  | _ => none

/-- Whether two values are the same number, whatever their types. -/
def sameNumber (left right : Value) : Bool :=
  match factored? left, factored? right with
  | some number, some number' => number = number'
  | none, none => (infiniteSign? left).isSome && infiniteSign? left = infiniteSign? right
  | _, _ => false

mutual

/-- Whether two values are the same key of a mapping: equal numbers of any type are, and so are
times at the same moment. -/
def sameKey (left right : Value) : Bool :=
  match left, right with
  | .null, .null => true
  | .text left, .text right => left = right
  | .textual left, .textual right => left.coincides right
  | .bytes _ left, .bytes _ right => left = right
  | .typeName left, .typeName right => left = right
  | .sequence kind left, .sequence kind' right => kind = kind' && sameKeys left right
  | left, right => sameNumber left right
termination_by structural left

/-- Whether two containers hold the same keys in the same order. -/
def sameKeys (left right : List Value) : Bool :=
  match left, right with
  | [], [] => true
  | value :: rest, value' :: rest' => sameKey value value' && sameKeys rest rest'
  | _, _ => false
termination_by structural left

end

/-- Put an entry into a mapping.  A key that is already there keeps its place and its first form
and takes the new value. -/
def putEntry (key value : Value) : List (Value × Value) → List (Value × Value)
  | [] => [(key, value)]
  | (key', value') :: rest =>
      if sameKey key' key then (key', value) :: rest else (key', value') :: putEntry key value rest

/-- The mapping that results from putting entries in one after the other. -/
def ofEntries (entries : List (Value × Value)) : Value :=
  .mapping (entries.foldl (fun built (key, value) => putEntry key value built) [])

/-- The value at a text key of a mapping. -/
def field? (name : String) : List (Value × Value) → Option Value
  | [] => none
  | (.text key, value) :: rest => if key = name then some value else field? name rest
  | _ :: rest => field? name rest

end Value

end QueryGateway
