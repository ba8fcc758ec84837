import QueryGateway.Sql.Literal

/-!
# Renderings

A rendering writes pieces of a statement until it ends or fails.  What was
written before a failure stays, so the parameters met up to there are known.
Renderings form a monoid: a rendering that failed swallows what comes after it.
-/

namespace QueryGateway

open Sql

/-- The clause of a statement that is being written. -/
inductive Clause where
  | select
  | source
  | join
  | condition
  | having
  | limit
  | offset
  | other (name : String)
  deriving Repr, DecidableEq

/-- The name of a clause. -/
def Clause.name : Clause → String
  | .select => "SELECT"
  | .source => "FROM"
  | .join => "JOIN"
  | .condition => "WHERE"
  | .having => "HAVING"
  | .limit => "LIMIT"
  | .offset => "OFFSET"
  | .other name => name

/-- What is wrong with a part of a query. -/
inductive QueryFault where
  | noColumns
  | bothColumnAndExpression
  | neitherColumnNorExpression
  | blankExpression
  | noSourceTable
  | noJoinTable
  | unknownJoin (name : String)
  | fullJoinUnsupported (dialect : String)
  | noJoinCondition (keyword table : String)
  | noOperand
  | noOperandColumn
  | badParameterName (name : Option String)
  | unsupportedLiteral (value : Value)
  | unknownOperand (kind : String)
  | noFilter
  | unknownFilter (kind : String)
  | noComparison
  | noConnective
  | noChildren
  | noValues
  | noPattern
  | negativeLimit (limit : Int)
  | negativeOffset (offset : Int)
  deriving Repr

/-- The grammar of a parameter name as it is shown to a user. -/
def parameterNameGrammar : String := "[A-Za-z_][A-Za-z0-9_]*"

/-- The description of a fault. -/
def QueryFault.message : QueryFault → String
  | .noColumns => "At least one column must be selected."
  | .bothColumnAndExpression => "Select column sets both 'column' and 'expression'."
  | .neitherColumnNorExpression => "Select column sets neither 'column' nor 'expression'."
  | .blankExpression => "Select expression is empty."
  | .noSourceTable => "Source table is required."
  | .noJoinTable => "JOIN table name is required."
  | .unknownJoin name => "Unsupported join type: " ++ name
  | .fullJoinUnsupported dialect => "FULL JOIN not supported by " ++ dialect ++ "."
  | .noJoinCondition keyword table =>
      keyword ++ " on '" ++ table ++ "' requires an ON condition."
  | .noOperand => "Filter operand is missing."
  | .noOperandColumn => "COLUMN value requires a column name."
  | .badParameterName name =>
      "Invalid parameter name: " ++ (Value.ofText? name).display ++ ". Names must match "
        ++ parameterNameGrammar ++ "."
  | .unsupportedLiteral value => (LiteralError.unsupported value).message
  | .unknownOperand kind => "Unknown value type: " ++ kind
  | .noFilter => "Filter expression is missing."
  | .unknownFilter kind => "Unknown filter type: " ++ kind
  | .noComparison => "COMPARISON filter requires an operator."
  | .noConnective => "LOGICAL filter requires a logical operator."
  | .noChildren => "LOGICAL filter requires at least one child."
  | .noValues => "IN filter requires at least one value."
  | .noPattern => "LIKE filter requires a pattern."
  | .negativeLimit limit => "LIMIT must be non-negative, got " ++ Numeral.ofInt limit ++ "."
  | .negativeOffset offset => "OFFSET must be non-negative, got " ++ Numeral.ofInt offset ++ "."

/-- Why a query could not be written: a fault in a clause, or an integer of too many digits. -/
inductive CompileError where
  | fault (clause : Clause) (fault : QueryFault)
  | longInteger
  deriving Repr

/-- The description of a compile error. -/
def CompileError.message : CompileError → String
  | .fault _ cause => cause.message
  | .longInteger => Numeral.unwritableMessage

/-- The pieces written so far, and the failure that ended the writing, if one did. -/
structure Rendering where
  pieces : List Piece
  failure : Option CompileError
  deriving Repr

namespace Rendering

/-- A rendering that writes pieces. -/
def of (pieces : List Piece) : Rendering := ⟨pieces, none⟩

/-- A rendering that writes one bare text. -/
def bare (text : String) : Rendering := of [.bare text]

/-- A rendering that writes nothing. -/
def empty : Rendering := of []

/-- A rendering that fails. -/
def fail (error : CompileError) : Rendering := ⟨[], some error⟩

/-- A rendering that fails with a fault in a clause. -/
def fault (clause : Clause) (fault : QueryFault) : Rendering := fail (.fault clause fault)

/-- One rendering after the other; a failure ends the writing. -/
def append (first second : Rendering) : Rendering :=
  match first.failure with
  | some _ => first
  | none => ⟨first.pieces ++ second.pieces, second.failure⟩

instance : Append Rendering := ⟨append⟩

/-- A list of renderings with a separator between them. -/
def joined (separator : String) : List Rendering → Rendering
  | [] => empty
  | [rendering] => rendering
  | rendering :: rest => rendering ++ bare separator ++ joined separator rest

/-- A rendering between two bare texts. -/
def between (opening : String) (inner : Rendering) (closing : String) : Rendering :=
  bare opening ++ inner ++ bare closing

/-- The parameters that were written, in the order of their first use. -/
def parameterNames (rendering : Rendering) : List String :=
  Sql.distinct (rendering.pieces.filterMap Piece.name?)

/-- Whether a rendering ended without writing anything. -/
def isEmpty (rendering : Rendering) : Bool :=
  rendering.pieces.isEmpty && rendering.failure.isNone

/-- The pieces of a rendering that did not fail. -/
def result (rendering : Rendering) : Except CompileError (List Piece) :=
  match rendering.failure with
  | some error => .error error
  | none => .ok rendering.pieces

theorem append_def
    (first second : Rendering) :
    first ++ second = append first second := rfl

theorem joined_cons_cons
    (separator : String)
    (rendering next : Rendering)
    (rest : List Rendering) :
    joined separator (rendering :: next :: rest)
      = rendering ++ bare separator ++ joined separator (next :: rest) := rfl

@[simp]
theorem failure_append
    (first second : Rendering) :
    (first ++ second).failure = first.failure.or second.failure := by
  rw [append_def]
  unfold append
  split <;> simp_all

theorem pieces_append_of_ok
    {first : Rendering}
    (second : Rendering)
    (ok : first.failure = none) :
    (first ++ second).pieces = first.pieces ++ second.pieces := by
  simp [append_def, append, ok]

theorem append_of_failure
    {first : Rendering}
    {error : CompileError}
    (second : Rendering)
    (failed : first.failure = some error) :
    first ++ second = first := by
  simp [append_def, append, failed]

/-- Writing one after the other is associative. -/
theorem append_assoc
    (first second third : Rendering) :
    first ++ second ++ third = first ++ (second ++ third) := by
  rcases first with ⟨firstPieces, _ | firstError⟩ <;>
    rcases second with ⟨secondPieces, _ | secondError⟩ <;>
    simp [append_def, append]

@[simp]
theorem empty_append
    (rendering : Rendering) :
    empty ++ rendering = rendering := by
  simp [append_def, append, empty, of]

end Rendering

end QueryGateway
