import QueryGateway.Query.Basic
import QueryGateway.Query.Rendering
import QueryGateway.Text.Blank

/-!
# Compiling a query

Each part of a query becomes a rendering, and the clauses are put together in
the order of SQL, one on a line.  The first part that is not well formed ends
the rendering, and its fault names the clause it stands in.
-/

namespace QueryGateway

open Sql

/-! ## Operands -/

/-- The literal of a constant in a clause. -/
def Rendering.ofLiteral (clause : Clause) (value : Value) : Rendering :=
  match literal value with
  | .ok pieces => .of pieces
  | .error (.unsupported part) => .fault clause (.unsupportedLiteral part)
  | .error .longInteger => .fail .longInteger

/-- An operand in a clause. -/
def Operand.rendering (clause : Clause) : Operand → Rendering
  | .column table name =>
      match name with
      | none | some "" => .fault clause .noOperandColumn
      | some name => .of (columnReference table name)
  | .literal value => .ofLiteral clause value
  | .parameter name =>
      match name with
      | none => .fault clause (.badParameterName none)
      | some name =>
          if isName name.toList then
            .of [.placeholder name]
          else
            .fault clause (.badParameterName (some name))

/-- An operand that has to be there. -/
def renderOperand (clause : Clause) : Option Operand → Rendering
  | none => .fault clause .noOperand
  | some operand => operand.rendering clause

/-! ## Filters -/

/-- A condition, turned into its opposite if asked for. -/
def renderNegation (negate : Bool) (condition : Rendering) : Rendering :=
  if negate then .between "NOT (" condition ")" else condition

mutual

/-- A filter in a clause, before it is turned into its opposite. -/
def Filter.condition (clause : Clause) : Filter → Rendering
  | .comparison left operator right _ =>
      match operator with
      | none => .fault clause .noComparison
      | some operator =>
          renderOperand clause left ++ .bare (" " ++ operator.symbol ++ " ")
            ++ renderOperand clause right
  | .logical none _ _ => .fault clause .noConnective
  | .logical (some _) none _ => .fault clause .noChildren
  | .logical (some operator) (some children) _ =>
      if children.isEmpty then
        .fault clause .noChildren
      else
        .between "(" (.joined (" " ++ operator.name ++ " ") (renderChildren clause children)) ")"
  | .membership column values _ =>
      let column := renderOperand clause column
      match values with
      | none | some [] => column ++ .fault clause .noValues
      | some values =>
          let values := values.map fun value => value.rendering clause
          column ++ .between " IN (" (.joined itemSeparator values) ")"
  | .between column low high _ =>
      renderOperand clause column ++ .bare " BETWEEN " ++ renderOperand clause low
        ++ .bare " AND " ++ renderOperand clause high
  | .isNull column _ => renderOperand clause column ++ .bare " IS NULL"
  | .isNotNull column _ => renderOperand clause column ++ .bare " IS NOT NULL"
  | .like column pattern _ =>
      let column := renderOperand clause column
      match pattern with
      | none => column ++ .fault clause .noPattern
      | some pattern => column ++ .bare " LIKE " ++ .of [.text pattern]

/-- The children of a connective, each between parentheses. -/
def renderChildren (clause : Clause) : List Filter → List Rendering
  | [] => []
  | child :: rest =>
      .between "(" (renderNegation child.negate (child.condition clause)) ")"
        :: renderChildren clause rest

end

/-- A filter in a clause. -/
def Filter.rendering (clause : Clause) (filter : Filter) : Rendering :=
  renderNegation filter.negate (filter.condition clause)

/-- A filter that has to be there. -/
def renderFilter (clause : Clause) : Option Filter → Rendering
  | none => .fault clause .noFilter
  | some filter => filter.rendering clause

/-- Several filters that all have to hold; a single one needs no parentheses. -/
def renderFilters (clause : Clause) : List Filter → Rendering
  | [filter] => filter.rendering clause
  | filters =>
      .joined " AND " (filters.map fun filter => .between "(" (filter.rendering clause) ")")

theorem renderChildren_eq_map
    (clause : Clause)
    (filters : List Filter) :
    renderChildren clause filters
      = filters.map fun filter => .between "(" (filter.rendering clause) ")" := by
  induction filters with
  | nil => rfl
  | cons filter rest hypothesis => simp [renderChildren, hypothesis, Filter.rendering]

/-! ## Clauses -/

/-- A selected item.  An expression stands as it was written; a new name that only repeats the
column's own is left out. -/
def SelectColumn.rendering (item : SelectColumn) : Rendering :=
  match item.expression, item.column with
  | some _, some _ => .fault .select .bothColumnAndExpression
  | some expression, none =>
      if Text.isBlankText expression then
        .fault .select .blankExpression
      else
        .of (.raw expression :: aliased item.label)
  | none, none => .fault .select .neitherColumnNorExpression
  | none, some column =>
      .of (columnReference item.table column
        ++ aliased (item.label.filter (· ≠ column)))

/-- The clause of selected items. -/
def renderSelect (distinct : Bool) (columns : List SelectColumn) : Rendering :=
  if columns.isEmpty then
    .fault .select .noColumns
  else
    .bare (if distinct then "SELECT DISTINCT " else "SELECT ")
      ++ .joined itemSeparator (columns.map SelectColumn.rendering)

/-- The clause of the source table. -/
def TableRef.rendering (source : TableRef) : Rendering :=
  if source.table.isEmpty then
    .fault .source .noSourceTable
  else
    .bare "FROM " ++ .of (tableReference source.schema source.table source.label)

/-- The clause of a join.  A cross join has no condition, every other one needs one. -/
def Join.rendering (dialect : Dialect) (join : Join) : Rendering :=
  if join.table.isEmpty then
    .fault .join .noJoinTable
  else if join.kind = .full ∧ dialect.supportsFullJoin = false then
    .fault .join (.fullJoinUnsupported dialect.name)
  else
    let table : Rendering :=
      .bare (join.kind.keyword ++ " ") ++ .of (tableReference join.schema join.table join.label)
    if join.kind = .cross then
      table
    else
      match join.condition with
      | none => .fault .join (.noJoinCondition join.kind.keyword join.table)
      | some condition => table ++ .bare " ON " ++ condition.rendering .join

/-- The clause of the columns to group by. -/
def renderGroupBy (columns : List ColumnRef) : Rendering :=
  .bare "GROUP BY "
    ++ .joined itemSeparator (columns.map fun item => .of (columnReference item.table item.column))

/-- A column to order by with its direction. -/
def OrderItem.rendering (item : OrderItem) : Rendering :=
  .of (columnReference item.table item.column) ++ .bare (" " ++ item.direction.name)

/-- The clause of the columns to order by. -/
def renderOrderBy (items : List OrderItem) : Rendering :=
  .bare "ORDER BY " ++ .joined itemSeparator (items.map OrderItem.rendering)

/-- A bound of a result may not be negative. -/
def checkSign
    (clause : Clause)
    (negative : Int → QueryFault)
    (bound : Option Int) :
    Rendering :=
  match bound with
  | none => .empty
  | some bound =>
      if bound ≥ 0 then .empty
      else if Numeral.isWritable bound then .fault clause (negative bound)
      else .fail .longInteger

/-- The bounds of a result as they are written; both have to be short enough. -/
def writeBounds (dialect : Dialect) (limit offset : Option Int) : Rendering :=
  if limit.all Numeral.isWritable && offset.all Numeral.isWritable then
    .of (limitClause dialect limit offset)
  else
    .fail .longInteger

/-- The clause that bounds the result. -/
def renderBounds (dialect : Dialect) (limit offset : Option Int) : Rendering :=
  checkSign .limit .negativeLimit limit ++ checkSign .offset .negativeOffset offset
    ++ writeBounds dialect limit offset

/-! ## Queries -/

/-- A clause that is written only if there is something to write it for. -/
def clauseUnless (absent : Bool) (clause : Rendering) : List Rendering :=
  if absent then [] else [clause]

/-- The clause that bounds the result, if there is a bound. -/
def boundsClause (dialect : Dialect) (limit offset : Option Int) : List Rendering :=
  let clause := renderBounds dialect limit offset
  clauseUnless clause.isEmpty clause

/-- The clauses of a query in the order of SQL. -/
def VisualQuery.clauses (dialect : Dialect) (query : VisualQuery) : List Rendering :=
  [renderSelect query.distinct query.columns, query.source.rendering]
    ++ query.joins.map (Join.rendering dialect)
    ++ clauseUnless query.filters.isEmpty
        (.bare "WHERE " ++ renderFilters .condition query.filters)
    ++ clauseUnless query.groupBy.isEmpty (renderGroupBy query.groupBy)
    ++ clauseUnless query.having.isEmpty (.bare "HAVING " ++ renderFilters .having query.having)
    ++ clauseUnless query.orderBy.isEmpty (renderOrderBy query.orderBy)
    ++ boundsClause dialect query.limit query.offset

/-- A query as a rendering, each clause on a line of its own. -/
def VisualQuery.rendering (dialect : Dialect) (query : VisualQuery) : Rendering :=
  .joined "\n" (query.clauses dialect)

/-- A compiled query: a statement with placeholders, the parameters it needs in the order of
their first use, and the name of the dialect. -/
structure CompiledQuery where
  sql : String
  parameterNames : List String
  dialect : String
  deriving Repr, DecidableEq

/-- Compile a query for a dialect. -/
def VisualQuery.compile (dialect : Dialect) (query : VisualQuery) :
    Except CompileError CompiledQuery :=
  let rendering := query.rendering dialect
  rendering.result.map fun pieces =>
    { sql := Piece.write dialect pieces
      parameterNames := rendering.parameterNames
      dialect := dialect.name }

end QueryGateway
