import QueryGateway.Query.Compile

/-!
# Fragments

Parts of a query rendered on their own, in any clause.  Unlike a query that was
read from a document, a fragment may be something that is no operand, no filter
and no kind of join at all.
-/

namespace QueryGateway

open Sql

/-- A part of a query, or something in its place. -/
inductive Fragment where
  | operand (operand : Option Operand)
  | filter (filter : Option Filter)
  | filters (filters : List Filter)
  | strangeOperand (value : Value)
  | strangeFilter (value : Value)
  | strangeJoin (table kind : String)
  deriving Repr

/-- A value in place of an operand. -/
def renderStrangeOperand (clause : Clause) : Value → Rendering
  | .null => .fault clause .noOperand
  | value => .fault clause (.unknownOperand value.kindName)

/-- A value in place of a filter. -/
def renderStrangeFilter (clause : Clause) : Value → Rendering
  | .null => .fault clause .noFilter
  | value => .fault clause (.unknownFilter value.kindName)

/-- A join without a condition whose kind is any text. -/
def renderStrangeJoin (table kind : String) : Rendering :=
  if table.isEmpty then
    .fault .join .noJoinTable
  else
    match JoinKind.ofName? kind with
    | none => .fault .join (.unknownJoin kind)
    | some kind => .fault .join (.noJoinCondition kind.keyword table)

/-- A fragment in a clause. -/
def Fragment.rendering (clause : Clause) : Fragment → Rendering
  | .operand part => renderOperand clause part
  | .filter part => renderFilter clause part
  | .filters parts => renderFilters clause parts
  | .strangeOperand value => renderStrangeOperand clause value
  | .strangeFilter value => renderStrangeFilter clause value
  | .strangeJoin table kind => renderStrangeJoin table kind

/-- The outcome of rendering a fragment, and the parameters met up to then. -/
structure FragmentOutcome where
  text : Except CompileError String
  parameterNames : List String

/-- Render fragments one after the other.  Parameters are collected over all of them, in the order
of their first use, also from a fragment that fails. -/
def renderFragments
    (dialect : Dialect) :
    List String → List (Clause × Fragment) → List FragmentOutcome
  | _, [] => []
  | names, (clause, fragment) :: rest =>
      let rendering := fragment.rendering clause
      let names := distinct (names ++ rendering.parameterNames)
      { text := rendering.result.map (Piece.write dialect), parameterNames := names }
        :: renderFragments dialect names rest

end QueryGateway
