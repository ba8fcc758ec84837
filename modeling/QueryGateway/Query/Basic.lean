import QueryGateway.Value.Basic

/-!
# Visual queries

The description of a query that a drag-and-drop builder produces: a source
table, joins, selected columns, filters, grouping, ordering and bounds.  The
parts of a filter are optional, because an unfinished query is a query too;
what is missing is reported when the query is compiled.
-/

namespace QueryGateway

/-- Comparisons of two operands. -/
inductive ComparisonOp where
  | eq
  | neq
  | gt
  | gte
  | lt
  | lte
  deriving Repr, DecidableEq

/-- Connectives of filters. -/
inductive LogicalOp where
  | and
  | or
  deriving Repr, DecidableEq

/-- Kinds of join. -/
inductive JoinKind where
  | inner
  | left
  | right
  | full
  | cross
  deriving Repr, DecidableEq

/-- Directions of ordering. -/
inductive SortDirection where
  | asc
  | desc
  deriving Repr, DecidableEq

namespace ComparisonOp

/-- All comparisons. -/
def all : List ComparisonOp := [.eq, .neq, .gt, .gte, .lt, .lte]

/-- The name of a comparison in a document. -/
def name : ComparisonOp → String
  | .eq => "EQ"
  | .neq => "NEQ"
  | .gt => "GT"
  | .gte => "GTE"
  | .lt => "LT"
  | .lte => "LTE"

/-- The sign of a comparison in a statement. -/
def symbol : ComparisonOp → String
  | .eq => "="
  | .neq => "<>"
  | .gt => ">"
  | .gte => ">="
  | .lt => "<"
  | .lte => "<="

end ComparisonOp

namespace LogicalOp

/-- All connectives. -/
def all : List LogicalOp := [.and, .or]

/-- The name of a connective, in documents and in statements. -/
def name : LogicalOp → String
  | .and => "AND"
  | .or => "OR"

end LogicalOp

namespace JoinKind

/-- All kinds of join. -/
def all : List JoinKind := [.inner, .left, .right, .full, .cross]

/-- The name of a kind of join in a document. -/
def name : JoinKind → String
  | .inner => "INNER"
  | .left => "LEFT"
  | .right => "RIGHT"
  | .full => "FULL"
  | .cross => "CROSS"

/-- The words of a kind of join in a statement. -/
def keyword : JoinKind → String
  | .inner => "INNER JOIN"
  | .left => "LEFT JOIN"
  | .right => "RIGHT JOIN"
  | .full => "FULL OUTER JOIN"
  | .cross => "CROSS JOIN"

/-- The kind of join with a name. -/
def ofName? (name : String) : Option JoinKind :=
  all.find? fun kind => kind.name = name

end JoinKind

namespace SortDirection

/-- All directions. -/
def all : List SortDirection := [.asc, .desc]

/-- The name of a direction, in documents and in statements. -/
def name : SortDirection → String
  | .asc => "ASC"
  | .desc => "DESC"

end SortDirection

/-- An operand of a filter: a column, a constant, or a parameter that is given a value later. -/
inductive Operand where
  | column (table column : Option String)
  | literal (value : Value)
  | parameter (name : Option String)
  deriving Repr

/-- A condition on rows. -/
inductive Filter where
  | comparison (left : Option Operand) (operator : Option ComparisonOp) (right : Option Operand)
      (negate : Bool)
  | logical (operator : Option LogicalOp) (children : Option (List Filter)) (negate : Bool)
  | membership (column : Option Operand) (values : Option (List Operand)) (negate : Bool)
  | between (column low high : Option Operand) (negate : Bool)
  | isNull (column : Option Operand) (negate : Bool)
  | isNotNull (column : Option Operand) (negate : Bool)
  | like (column : Option Operand) (pattern : Option String) (negate : Bool)
  deriving Repr

/-- Whether a condition is turned into its opposite. -/
def Filter.negate : Filter → Bool
  | .comparison _ _ _ negate => negate
  | .logical _ _ negate => negate
  | .membership _ _ negate => negate
  | .between _ _ _ negate => negate
  | .isNull _ negate => negate
  | .isNotNull _ negate => negate
  | .like _ _ negate => negate

/-- A table under an optional new name. -/
structure TableRef where
  table : String
  schema : Option String
  label : Option String
  deriving Repr, DecidableEq

/-- A selected item: a column or an expression in SQL, one of the two. -/
structure SelectColumn where
  table : Option String
  column : Option String
  expression : Option String
  label : Option String
  aggregate : Bool
  deriving Repr, DecidableEq

/-- A column to group by. -/
structure ColumnRef where
  table : Option String
  column : String
  deriving Repr, DecidableEq

/-- A joined table with its condition. -/
structure Join where
  table : String
  schema : Option String
  label : Option String
  kind : JoinKind
  condition : Option Filter
  deriving Repr

/-- A column to order by. -/
structure OrderItem where
  table : Option String
  column : String
  direction : SortDirection
  deriving Repr, DecidableEq

/-- A query. -/
structure VisualQuery where
  source : TableRef
  joins : List Join
  columns : List SelectColumn
  filters : List Filter
  groupBy : List ColumnRef
  having : List Filter
  orderBy : List OrderItem
  limit : Option Int
  offset : Option Int
  distinct : Bool
  deriving Repr

end QueryGateway
