import QueryGateway.Value.Basic

/-!
# Results

What a statement, a probe and a look into the catalog return.
-/

namespace QueryGateway

/-- A column of a result or of a table: its name, the name of its type, and whether it may hold
nothing. -/
structure Column where
  name : String
  type : String
  nullable : Bool
  deriving Repr, DecidableEq

/-- The rows of a statement.  A result is truncated if there were more rows than it holds. -/
structure QueryResult where
  columns : List Column
  rows : List (List Value)
  rowCount : Int
  executionTimeMs : Binary64
  truncated : Bool
  deriving Repr

/-- The outcome of a probe. -/
structure ProbeResult where
  success : Bool
  message : String
  durationMs : Binary64
  deriving Repr, DecidableEq

/-- A table or a view with its columns. -/
structure TableInfo where
  name : String
  type : String
  columns : List Column
  deriving Repr, DecidableEq

/-- The names of columns in order. -/
def columnNames (columns : List Column) : List String :=
  columns.map Column.name

/-- The result of a statement that returns no rows. -/
def QueryResult.empty : QueryResult := ⟨[], [], 0, .ofInt 0, false⟩

/-- The rows of a result as mappings from the names of the columns.  Of columns of one name the
last one counts. -/
def QueryResult.records (result : QueryResult) : List Value :=
  result.rows.map fun row =>
    .ofEntries ((columnNames result.columns).map Value.text |>.zip row)

end QueryGateway
