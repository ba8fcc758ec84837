import QueryGateway.Json.Writer
import QueryGateway.Value.Display

/-!
# Result cells

A driver returns values of many kinds; a result carries closed values only.
`Value.toCell?` keeps the closed scalars, writes every other scalar as text,
turns every container into a list, and a mapping into the text of a JSON
object.  Inside such an object nested mappings stay objects, and a decimal,
which JSON cannot tell from a floating-point number, becomes text.  A mapping
that shows an integer too long to be written has no cell.
-/

namespace QueryGateway.Value

/-- A floating-point number in a JSON document; the values that are no numbers become text. -/
def floatToJson (value : Binary64) : Json :=
  if value.isFinite then .float value else .text value.text

mutual

/-- A value as a JSON document, unless a key in it is too long to be written. -/
def toJson? : Value → Option Json
  | .null => some .null
  | .bool value => some (.bool value)
  | .int value => some (.int value)
  | .float value => some (floatToJson value)
  | .decimal value => some (.text value.text)
  | .text value => some (.text value)
  | .textual value => some (.text value.text)
  | .bytes _ data => some (.text (Text.hexOfBytes data))
  | .typeName name => some (.text (plainText (.typeName name)))
  | .foreign shown => some (.text shown)
  | .sequence _ items => (toJsonItems? items).map Json.array
  | .mapping entries => (toJsonMembers? entries).map Json.ofMembers

/-- The items of a container as JSON documents. -/
def toJsonItems? : List Value → Option (List Json)
  | [] => some []
  | value :: rest => do
      let item ← value.toJson?
      let items ← toJsonItems? rest
      return item :: items

/-- The entries of a mapping as members that are named by the text of their key. -/
def toJsonMembers? : List (Value × Value) → Option (List (String × Json))
  | [] => some []
  | (key, value) :: rest => do
      let name ← key.plainText?
      let item ← value.toJson?
      let members ← toJsonMembers? rest
      return (name, item) :: members

end

mutual

/-- The closed value that stands for a value in a result.  The integers of a mapping are written
down, so they have to be short enough. -/
def toCell? : Value → Option Value
  | .null => some .null
  | .bool value => some (.bool value)
  | .int value => some (.int value)
  | .text value => some (.text value)
  | .float value => some (if value.isFinite then .float value else .text value.text)
  | .decimal value => some (if value.isFinite then .decimal value else .text value.text)
  | .textual value => some (.text value.text)
  | .bytes _ data => some (.text (Text.hexOfBytes data))
  | .typeName name => some (.text (plainText (.typeName name)))
  | .foreign shown => some (.text shown)
  | .sequence _ items => (toCells? items).map Value.list
  | .mapping entries => do
      let members ← toJsonMembers? entries
      let shown ← (Json.ofMembers members).text?
      return .text shown

/-- The closed values that stand for the items of a container. -/
def toCells? : List Value → Option (List Value)
  | [] => some []
  | value :: rest => do
      let cell ← value.toCell?
      let cells ← toCells? rest
      return cell :: cells

end

/-- The cell of a mapping is the text of its document. -/
theorem toCell?_mapping
    (entries : List (Value × Value)) :
    (mapping entries).toCell? =
      ((mapping entries).toJson?.bind Json.text?).map .text := by
  rw [toCell?, toJson?]
  cases toJsonMembers? entries with
  | none => rfl
  | some members => cases shown : (Json.ofMembers members).text? <;> simp [shown]

/-- The cells of a row, in order. -/
theorem toCells?_eq_mapM
    (values : List Value) :
    toCells? values = values.mapM toCell? := by
  induction values with
  | nil => rfl
  | cons value rest hypothesis => rw [toCells?, List.mapM_cons, hypothesis]

end QueryGateway.Value
