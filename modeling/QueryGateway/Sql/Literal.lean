import QueryGateway.Sql.Piece
import QueryGateway.Value.Display

/-!
# Literals

How a value stands in a statement.  Numbers stand by their text, everything
else goes through the dialect's quoting; a list stands for its items between
commas, and an empty list for nothing, so that a membership test over it is
valid and matches nothing.
-/

namespace QueryGateway.Sql

/-- Why a value has no literal. -/
inductive LiteralError where
  | unsupported (value : Value)
  | longInteger
  deriving Repr

/-- The description of a literal error. -/
def LiteralError.message : LiteralError → String
  | .unsupported value =>
      "Cannot render value of type " ++ value.kindName ++ " as a SQL literal: " ++ value.display
  | .longInteger => Numeral.unwritableMessage

/-- The error of a value without a literal.  Its message shows the value, so the integers in it must
be short enough to be written. -/
def LiteralError.ofValue (value : Value) : LiteralError :=
  if value.hasShortIntegers then .unsupported value else .longInteger

/-- The separator between the items of a list. -/
def itemSeparator : String := ", "

/-- The literal that stands for nothing. -/
def nullLiteral : List Piece := [.bare "NULL"]

mutual

/-- The literal of a value. -/
def literal : Value → Except LiteralError (List Piece)
  | .null => .ok nullLiteral
  | .bool value => .ok [.truth value]
  | .int value =>
      if Numeral.isWritable value then .ok [.bare (Numeral.ofInt value)] else .error .longInteger
  | .float value =>
      if value.isFinite then .ok [.bare value.text] else .error (.ofValue (.float value))
  | .decimal value =>
      if value.isFinite then .ok [.bare value.text] else .error (.ofValue (.decimal value))
  | .text value => .ok [.text value]
  | .textual value => .ok [.text value.text]
  | .sequence kind items =>
      if kind.isOrdered then
        if items.isEmpty then
          .ok nullLiteral
        else
          (literals items).map (Piece.joined itemSeparator)
      else
        .error (.ofValue (.sequence kind items))
  | .bytes kind data => .error (.ofValue (.bytes kind data))
  | .typeName name => .error (.ofValue (.typeName name))
  | .foreign text => .error (.ofValue (.foreign text))
  | .mapping entries => .error (.ofValue (.mapping entries))

/-- The literals of the items of a list, up to the first item without one. -/
def literals : List Value → Except LiteralError (List (List Piece))
  | [] => .ok []
  | value :: rest =>
      match literal value with
      | .error error => .error error
      | .ok pieces => (literals rest).map (pieces :: ·)

end

/-- The literal of a value as text. -/
def literalText (dialect : Dialect) (value : Value) : Except LiteralError String :=
  (literal value).map (Piece.write dialect)

end QueryGateway.Sql
