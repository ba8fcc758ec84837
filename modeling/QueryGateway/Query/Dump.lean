import QueryGateway.Query.Basic

/-!
# Queries as documents

The document that describes a query.  Fields are named as in documents or by
their plain names, and fields that hold nothing may be left out.
-/

namespace QueryGateway

/-- How a query is described: by which of the two names of a field, and with or without the
fields that hold nothing. -/
structure DumpStyle where
  byAlias : Bool
  withoutNull : Bool
  deriving Repr, DecidableEq

namespace DumpStyle

/-- The name of a field. -/
def name (style : DumpStyle) (aliasName plain : String) : String :=
  if style.byAlias then aliasName else plain

/-- A record of fields. -/
def record (style : DumpStyle) (fields : List (String × Value)) : Value :=
  .record (if style.withoutNull then fields.filter fun (_, value) => !value.isNull else fields)

end DumpStyle

variable (style : DumpStyle)

/-- The document of an operand. -/
def Operand.dump : Operand → Value
  | .column table name =>
      style.record
        [("type", .text "COLUMN"), ("table", .ofText? table), ("column", .ofText? name)]
  | .literal value => style.record [("type", .text "LITERAL"), ("value", value)]
  | .parameter name => style.record [("type", .text "PARAM"), ("name", .ofText? name)]

/-- The document of an operand that may be absent. -/
def dumpOperand? : Option Operand → Value
  | some operand => operand.dump style
  | none => .null

/-- The document of operands that may be absent. -/
def dumpOperands? : Option (List Operand) → Value
  | some operands => .tuple (operands.map (Operand.dump style))
  | none => .null

mutual

/-- The document of a filter. -/
def Filter.dump : Filter → Value
  | .comparison left operator right negate =>
      style.record
        [("type", .text "COMPARISON"), ("left", dumpOperand? style left),
          ("operator", .ofText? (operator.map ComparisonOp.name)),
          ("right", dumpOperand? style right), ("negate", .bool negate)]
  | .logical operator none negate =>
      style.record
        [("type", .text "LOGICAL"),
          (style.name "logicalOp" "logical_op", .ofText? (operator.map LogicalOp.name)),
          ("children", .null), ("negate", .bool negate)]
  | .logical operator (some children) negate =>
      style.record
        [("type", .text "LOGICAL"),
          (style.name "logicalOp" "logical_op", .ofText? (operator.map LogicalOp.name)),
          ("children", .tuple (dumpFilters children)), ("negate", .bool negate)]
  | .membership column values negate =>
      style.record
        [("type", .text "IN"), ("column", dumpOperand? style column),
          ("values", dumpOperands? style values), ("negate", .bool negate)]
  | .between column low high negate =>
      style.record
        [("type", .text "BETWEEN"), ("column", dumpOperand? style column),
          ("low", dumpOperand? style low), ("high", dumpOperand? style high),
          ("negate", .bool negate)]
  | .isNull column negate =>
      style.record
        [("type", .text "IS_NULL"), ("column", dumpOperand? style column),
          ("negate", .bool negate)]
  | .isNotNull column negate =>
      style.record
        [("type", .text "IS_NOT_NULL"), ("column", dumpOperand? style column),
          ("negate", .bool negate)]
  | .like column pattern negate =>
      style.record
        [("type", .text "LIKE"), ("column", dumpOperand? style column),
          ("pattern", .ofText? pattern), ("negate", .bool negate)]

/-- The documents of filters. -/
def dumpFilters : List Filter → List Value
  | [] => []
  | filter :: rest => filter.dump :: dumpFilters rest

end

/-- The document of a table. -/
def TableRef.dump (source : TableRef) : Value :=
  style.record
    [("table", .text source.table),
      (style.name "schema" "schema_name", .ofText? source.schema),
      ("alias", .ofText? source.label)]

/-- The document of a selected item. -/
def SelectColumn.dump (item : SelectColumn) : Value :=
  style.record
    [("table", .ofText? item.table), ("column", .ofText? item.column),
      ("expression", .ofText? item.expression), ("alias", .ofText? item.label),
      ("aggregate", .bool item.aggregate)]

/-- The document of a column to group by. -/
def ColumnRef.dump (item : ColumnRef) : Value :=
  style.record [("table", .ofText? item.table), ("column", .text item.column)]

/-- The document of a join. -/
def Join.dump (join : Join) : Value :=
  style.record
    [("table", .text join.table),
      (style.name "schema" "schema_name", .ofText? join.schema),
      ("alias", .ofText? join.label), ("type", .text join.kind.name),
      ("on", (join.condition.map (Filter.dump style)).getD .null)]

/-- The document of a column to order by. -/
def OrderItem.dump (item : OrderItem) : Value :=
  style.record
    [("table", .ofText? item.table), ("column", .text item.column),
      ("direction", .text item.direction.name)]

/-- The document of a query. -/
def VisualQuery.dump (query : VisualQuery) : Value :=
  style.record
    [("source", query.source.dump style),
      ("joins", .tuple (query.joins.map (Join.dump style))),
      ("columns", .tuple (query.columns.map (SelectColumn.dump style))),
      ("filters", .tuple (dumpFilters style query.filters)),
      (style.name "groupBy" "group_by", .tuple (query.groupBy.map (ColumnRef.dump style))),
      ("having", .tuple (dumpFilters style query.having)),
      (style.name "orderBy" "order_by", .tuple (query.orderBy.map (OrderItem.dump style))),
      ("limit", .ofInt? query.limit), ("offset", .ofInt? query.offset),
      ("distinct", .bool query.distinct)]

end QueryGateway
