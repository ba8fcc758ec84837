import QueryGateway.Query.Basic
import QueryGateway.Number.Numeral
import QueryGateway.Text.Blank

/-!
# Validating a query

All structural problems of a query at once, for the builder that shows them.
Once a column is an aggregate, every plain column has to be grouped by.
-/

namespace QueryGateway

/-- A structural problem of a query; columns and joins are counted from one. -/
inductive QueryProblem where
  | noSourceTable
  | noColumns
  | notExactlyOne (column : Nat)
  | noJoinTable (join : Nat)
  | notGrouped (columns : List String)
  deriving Repr, DecidableEq

/-- The description of a problem. -/
def QueryProblem.message : QueryProblem → String
  | .noSourceTable => "Source table is required"
  | .noColumns => "At least one column must be selected"
  | .notExactlyOne column =>
      "Column #" ++ Numeral.ofNat column ++ ": exactly one of 'column' or 'expression' must be set"
  | .noJoinTable join => "JOIN #" ++ Numeral.ofNat join ++ ": table name is required"
  | .notGrouped columns =>
      "Columns without aggregation must appear in GROUP BY: " ++ ", ".intercalate columns

/-- The problems of numbered items, counted from a first number on. -/
def numberedProblems {α : Type}
    (isBad : α → Bool)
    (problem : Nat → QueryProblem) :
    Nat → List α → List QueryProblem
  | _, [] => []
  | number, item :: rest =>
      (if isBad item then [problem number] else [])
        ++ numberedProblems isBad problem (number + 1) rest

/-- Whether a reference to group by stands for a column; without a table on one of the two sides
every table matches. -/
def ColumnRef.matchesColumn (reference : ColumnRef) (item : SelectColumn) : Bool :=
  item.column = some reference.column &&
    (reference.table.isNone || item.table.isNone || reference.table = item.table)

/-- Whether an item is a plain column that is not grouped by. -/
def SelectColumn.isUngrouped (groupBy : List ColumnRef) (item : SelectColumn) : Bool :=
  !item.aggregate && item.expression.isNone && item.column.isSome
    && !(groupBy.any fun reference => reference.matchesColumn item)

/-- The name by which a problem refers to an item: its new name, else its column. -/
def SelectColumn.shownName (item : SelectColumn) : String :=
  let given (name : Option String) : Option String := name.filter fun name => !name.isEmpty
  ((given item.label).or (given item.column)).getD "?"

/-- The problem with plain columns beside aggregates. -/
def groupingProblems (query : VisualQuery) : List QueryProblem :=
  let ungrouped := query.columns.filter (SelectColumn.isUngrouped query.groupBy)
  if query.columns.any SelectColumn.aggregate && !ungrouped.isEmpty then
    [.notGrouped (ungrouped.map SelectColumn.shownName)]
  else
    []

/-- All problems of a query. -/
def VisualQuery.problems (query : VisualQuery) : List QueryProblem :=
  (if Text.isBlankText query.source.table then [.noSourceTable] else [])
    ++ (if query.columns.isEmpty then [.noColumns] else [])
    ++ numberedProblems (fun item => item.column.isNone = item.expression.isNone)
        .notExactlyOne 1 query.columns
    ++ numberedProblems (fun join => Text.isBlankText join.table) .noJoinTable 1 query.joins
    ++ groupingProblems query

/-- The descriptions of all problems of a query. -/
def VisualQuery.validate (query : VisualQuery) : List String :=
  query.problems.map QueryProblem.message

/-- The description of a query that was refused for its problems. -/
def refusalMessage (problems : List String) : String :=
  "Visual query validation failed: " ++ "; ".intercalate problems

end QueryGateway
