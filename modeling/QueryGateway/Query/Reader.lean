import QueryGateway.Document.Fields
import QueryGateway.Query.Basic
import QueryGateway.Value.Display

/-!
# Reading queries

A decoded document as a query, with every issue that it has.  Filters and
operands say by their `type` which kind they are; the issues of such a part are
placed under that tag.
-/

namespace QueryGateway

open Document

/-! ## Literals -/

/-- The name of the list alternative of a literal. -/
def literalListName : String :=
  "list[nullable[union[bool,int,float,decimal,str,list[...]]]]"

/-- The alternatives that a literal is tried as before the list, with the issues of a value that
is none of them. -/
def literalIssues (value : Value) : List Issue :=
  let issue (name : String) (kind : IssueKind) : Issue := ⟨[.name name], kind⟩
  match value with
  | .bytes .immutable _ =>
      [issue "bool" .boolParsing, issue "int" .intParsing, issue "float" .floatParsing,
        issue "decimal" .decimalType, issue "str" .stringUnicode]
  | .bytes .mutable _ =>
      [issue "bool" .boolType, issue "int" .intType, issue "float" .floatType,
        issue "decimal" .decimalType, issue "str" .stringUnicode]
  | .float _ =>
      [issue "bool" .boolType, issue "int" .finiteNumber, issue "float" .finiteNumber,
        issue "decimal" .finiteNumber, issue "str" .stringType]
  | .decimal (.nan _ true _) =>
      [issue "bool" .boolType, issue "int" .finiteNumber, issue "float" .floatType,
        issue "decimal" .finiteNumber, issue "str" .stringType]
  | .decimal _ =>
      [issue "bool" .boolType, issue "int" .finiteNumber, issue "float" .finiteNumber,
        issue "decimal" .finiteNumber, issue "str" .stringType]
  | _ =>
      [issue "bool" .boolType, issue "int" .intType, issue "float" .floatType,
        issue "decimal" .decimalType, issue "str" .stringType]

/-- The issues of a value that is no literal and no container either. -/
def notLiteral (value : Value) : Checked Value :=
  .error (literalIssues value ++ [⟨[.name literalListName], .listType⟩])

/-- What bytes with a text stand for: the truth value, the integer or the finite number that the
text is read as, the first of these that applies, or else the text itself. -/
def literalOfText (content : String) : Value :=
  let cs := content.toList
  match truthOfWord? cs, readIntText cs, readFloatText cs with
  | some truth, _, _ => .bool truth
  | none, .ok n, _ => .int n
  | none, .error _, .ok x => if x.isFinite then .float x else .text content
  | none, .error _, .error _ => .text content

mutual

/-- Read a literal: a closed value.  Bytes become what they stand for, those that may change only
ever a text, and every container a list. -/
def readLiteral : Value → Checked Value
  | .null => .ok .null
  | .bool value => .ok (.bool value)
  | .int value => .ok (.int value)
  | .text value => .ok (.text value)
  | .float value => if value.isFinite then .ok (.float value) else notLiteral (.float value)
  | .decimal value => if value.isFinite then .ok (.decimal value) else notLiteral (.decimal value)
  | .bytes .view data => .ok (.list (data.map ofByte))
  | .bytes kind data =>
      match Text.ofUtf8? data with
      | some value => .ok (if kind = .immutable then literalOfText value else .text value)
      | none => notLiteral (.bytes kind data)
  | .sequence kind items =>
      match readLiterals 0 items with
      | .ok items => .ok (.list items)
      | .error issues =>
          .error (literalIssues (.sequence kind items)
            ++ issues.map (Issue.under (.name literalListName)))
  | .textual value => notLiteral (.textual value)
  | .typeName name => notLiteral (.typeName name)
  | .foreign text => notLiteral (.foreign text)
  | .mapping entries => notLiteral (.mapping entries)

/-- Read the items of a literal list, each under its index from a first one on. -/
def readLiterals : Nat → List Value → Checked (List Value)
  | _, [] => .ok []
  | index, item :: rest =>
      Checked.and (Checked.and (.ok List.cons) ((readLiteral item).under (.index index)))
        (readLiterals (index + 1) rest)

end

/-! ## Tagged parts -/

/-- Names that several parts share. -/
abbrev typeField : Field := .simple "type"
abbrev tableField : Field := .simple "table"
abbrev columnField : Field := .simple "column"
abbrev aliasField : Field := .simple "alias"
abbrev negateField : Field := .simple "negate"
abbrev schemaField : Field := ⟨"schema", "schema_name"⟩
abbrev valuesField : Field := .simple "values"
abbrev childrenField : Field := .simple "children"

/-- The kinds of a part: their tags, each with the name of the record that it stands for. -/
abbrev Kinds := List (String × String)

/-- Whether a value is an object that could have fields, though it has none with a tag. -/
def isObject : Value → Bool
  | .decimal _ | .textual (.uuid _) | .foreign _ => true
  | _ => false

/-- Where the tag of a part is looked for: in a mapping, or beside an object in a pair.  An object
alone has no tag. -/
def tagEntries? : Value → Option Entries
  | .mapping entries => some entries
  | .sequence .tuple [object, .mapping entries] => if isObject object then some entries else none
  | value => if isObject value then some [] else none

/-- The tag of a part, if it is the tag of one of the kinds. -/
def readTag (kinds : Kinds) (value : Value) : Checked String :=
  let expected := kinds.map Prod.fst
  match (tagEntries? value).map (Value.field? "type") with
  | none => .issue .attributesType
  | some none => .issue .tagNotFound
  | some (some (.text tag)) =>
      if expected.contains tag then .ok tag else .issue (.tagInvalid tag expected)
  | some (some tag) => .issue (.tagInvalid tag.plainText expected)

/-- The issue of a part that has a tag and is no mapping. -/
def notRecord {α : Type} (kinds : Kinds) (tag : String) : Checked α :=
  (Checked.issue (.modelType ((kinds.lookup tag).getD ""))).under (.name tag)

/-- The fields of a tagged part, the tag aside, under the tag. -/
def readTagged {α : Type}
    (tag : String)
    (fields : List Field)
    (read : Entries → Checked α)
    (entries : Entries) :
    Checked α :=
  ((read entries).orIssues (unknownKeys (typeField :: fields) entries)).under (.name tag)

/-- The kinds of operands. -/
def operandKinds : Kinds :=
  [("COLUMN", "ColumnValue"), ("LITERAL", "LiteralValue"), ("PARAM", "ParamValue")]

/-- An optional text field. -/
def optionalText (field : Field) : Entries → Checked (Option String) :=
  field.optional none (readOptional readText)

/-- Read an operand with a known tag. -/
def readOperandAs (tag : String) (entries : Entries) : Checked Operand :=
  if tag = "COLUMN" then
    readTagged tag [tableField, columnField]
      (fun entries =>
        ((Checked.and (.ok Operand.column) (optionalText tableField entries)).and
          (optionalText columnField entries)))
      entries
  else if tag = "LITERAL" then
    let value := Field.simple "value"
    readTagged tag [value]
      (fun entries => (Checked.and (.ok Operand.literal) (value.optional .null readLiteral entries)))
      entries
  else
    let name := Field.simple "name"
    readTagged tag [name]
      (fun entries => (Checked.and (.ok Operand.parameter) (optionalText name entries)))
      entries

/-- Read an operand. -/
def readOperand (value : Value) : Checked Operand :=
  (readTag operandKinds value).bind fun tag =>
    match value with
    | .mapping entries => readOperandAs tag entries
    | _ => notRecord operandKinds tag

/-- An optional operand field. -/
def optionalOperand (name : String) : Entries → Checked (Option Operand) :=
  (Field.simple name).optional none (readOptional readOperand)

/-- A truth value field that is false when absent. -/
def optionalFlag (field : Field) : Entries → Checked Bool :=
  field.optional false readBool

/-! ## Filters -/

/-- The kinds of filters. -/
def filterKinds : Kinds :=
  [("COMPARISON", "ComparisonFilter"), ("LOGICAL", "LogicalFilter"), ("IN", "InFilter"),
    ("BETWEEN", "BetweenFilter"), ("IS_NULL", "IsNullFilter"),
    ("IS_NOT_NULL", "IsNotNullFilter"), ("LIKE", "LikeFilter")]

/-- Read a filter with a known tag; the children that its entries give are read already. -/
def readFilterAs
    (tag : String)
    (children : Checked (Option (List Filter)))
    (entries : Entries) :
    Checked Filter :=
  let column := Field.simple "column"
  let negate := optionalFlag negateField
  if tag = "COMPARISON" then
    let operator := Field.simple "operator"
    readTagged tag [.simple "left", operator, .simple "right", negateField]
      (fun entries =>
        ((((Checked.and (.ok Filter.comparison) (optionalOperand "left" entries)).and
          (operator.optional none (readOptional (readChoice ComparisonOp.all ComparisonOp.name)) entries)).and
          (optionalOperand "right" entries)).and
          (negate entries)))
      entries
  else if tag = "LOGICAL" then
    let operator : Field := ⟨"logicalOp", "logical_op"⟩
    readTagged tag [operator, childrenField, negateField]
      (fun entries =>
        (((Checked.and (.ok Filter.logical)
          (operator.optional none (readOptional (readChoice LogicalOp.all LogicalOp.name)) entries)).and
          children).and
          (negate entries)))
      entries
  else if tag = "IN" then
    readTagged tag [column, valuesField, negateField]
      (fun entries =>
        (((Checked.and (.ok Filter.membership) (optionalOperand "column" entries)).and
          (valuesField.optional none (readOptional (readItems .tupleType readOperand)) entries)).and
          (negate entries)))
      entries
  else if tag = "BETWEEN" then
    readTagged tag [column, .simple "low", .simple "high", negateField]
      (fun entries =>
        ((((Checked.and (.ok Filter.between) (optionalOperand "column" entries)).and
          (optionalOperand "low" entries)).and
          (optionalOperand "high" entries)).and
          (negate entries)))
      entries
  else if tag = "LIKE" then
    let pattern := Field.simple "pattern"
    readTagged tag [column, pattern, negateField]
      (fun entries =>
        (((Checked.and (.ok Filter.like) (optionalOperand "column" entries)).and
          (optionalText pattern entries)).and
          (negate entries)))
      entries
  else
    let build := if tag = "IS_NULL" then Filter.isNull else Filter.isNotNull
    readTagged tag [column, negateField]
      (fun entries =>
        ((Checked.and (.ok build) (optionalOperand "column" entries)).and (negate entries)))
      entries

/-- Bytes in the place of filters, each under its index from a first one on; none of them is a
filter. -/
def refuseBytes (first : Nat) (data : List UInt8) : Checked (List Filter) :=
  Checked.indexed (fun _ => .issue .attributesType) first data

mutual

/-- Read a filter. -/
def readFilter : Value → Checked Filter
  | .mapping entries =>
      (readTag filterKinds (.mapping entries)).bind fun tag =>
        readFilterAs tag (readChildrenField entries) entries
  | value => (readTag filterKinds value).bind (notRecord filterKinds)

/-- Read the children that the entries of a filter give. -/
def readChildrenField : List (Value × Value) → Checked (Option (List Filter))
  | [] => .ok none
  | (.text "children", value) :: _ => (readChildren value).under (.name childrenField.name)
  | _ :: rest => readChildrenField rest

/-- Read the children of a filter. -/
def readChildren : Value → Checked (Option (List Filter))
  | .null => .ok none
  | .sequence _ items => (readFilterItems 0 items).map some
  | .bytes .view data => (refuseBytes 0 data).map some
  | _ => .issue .tupleType

/-- Read filters, each under its index from a first one on. -/
def readFilterItems : Nat → List Value → Checked (List Filter)
  | _, [] => .ok []
  | index, item :: rest =>
      Checked.and (Checked.and (.ok List.cons) ((readFilter item).under (.index index)))
        (readFilterItems (index + 1) rest)

end

/-- Read the filters of a container. -/
def readFilters (refusal : IssueKind) : Value → Checked (List Filter)
  | .sequence _ items => readFilterItems 0 items
  | .bytes .view data => refuseBytes 0 data
  | _ => .issue refusal

/-! ## Records -/

/-- Read a table. -/
def readTableRef : Value → Checked TableRef :=
  readRecord (.modelType "TableRef") [tableField, schemaField, aliasField] fun entries =>
    (((Checked.and (.ok TableRef.mk) (tableField.required readText entries)).and
      (optionalText schemaField entries)).and
      (optionalText aliasField entries))

/-- Read a selected item. -/
def readSelectColumn : Value → Checked SelectColumn :=
  let expression := Field.simple "expression"
  let aggregate := Field.simple "aggregate"
  readRecord (.modelType "SelectColumn")
    [tableField, columnField, expression, aliasField, aggregate] fun entries =>
      (((((Checked.and (.ok SelectColumn.mk) (optionalText tableField entries)).and
        (optionalText columnField entries)).and
        (optionalText expression entries)).and
        (optionalText aliasField entries)).and
        (optionalFlag aggregate entries))

/-- Read a column to group by. -/
def readColumnRef : Value → Checked ColumnRef :=
  readRecord (.modelType "ColumnRef") [tableField, columnField] fun entries =>
    ((Checked.and (.ok ColumnRef.mk) (optionalText tableField entries)).and
      (columnField.required readText entries))

/-- Read a join. -/
def readJoin : Value → Checked Join :=
  let condition := Field.simple "on"
  readRecord (.modelType "JoinClause")
    [tableField, schemaField, aliasField, typeField, condition] fun entries =>
      (((((Checked.and (.ok Join.mk) (tableField.required readText entries)).and
        (optionalText schemaField entries)).and
        (optionalText aliasField entries)).and
        (typeField.optional .inner (readChoice JoinKind.all JoinKind.name) entries)).and
        (condition.optional none (readOptional readFilter) entries))

/-- Read a column to order by. -/
def readOrderItem : Value → Checked OrderItem :=
  let direction := Field.simple "direction"
  readRecord (.modelType "OrderByClause") [tableField, columnField, direction] fun entries =>
    (((Checked.and (.ok OrderItem.mk) (optionalText tableField entries)).and
      (columnField.required readText entries)).and
      (direction.optional .asc (readChoice SortDirection.all SortDirection.name) entries))

namespace VisualQuery

/-- The fields of a query in order of declaration. -/
def fields : List Field :=
  [.simple "source", .simple "joins", .simple "columns", .simple "filters",
    ⟨"groupBy", "group_by"⟩, .simple "having", ⟨"orderBy", "order_by"⟩, .simple "limit",
    .simple "offset", .simple "distinct"]

/-- An optional integer field. -/
def optionalInt (name : String) : Entries → Checked (Option Int) :=
  (Field.simple name).optional none (readOptional readInt)

/-- A field of several parts that has none when absent. -/
def optionalItems {α : Type}
    (field : Field)
    (read : Value → Checked α) :
    Entries → Checked (List α) :=
  field.optional [] (readItems .tupleType read)

/-- A field of filters that has none when absent. -/
def optionalFilters (name : String) : Entries → Checked (List Filter) :=
  (Field.simple name).optional [] (readFilters .tupleType)

/-- Read a query from a decoded document. -/
def ofValue : Value → Checked VisualQuery :=
  readRecord (.modelType "VisualQuery") fields fun entries =>
    ((((((((((Checked.and (.ok VisualQuery.mk)
      ((Field.simple "source").required readTableRef entries)).and
      (optionalItems (.simple "joins") readJoin entries)).and
      (optionalItems (.simple "columns") readSelectColumn entries)).and
      (optionalFilters "filters" entries)).and
      (optionalItems ⟨"groupBy", "group_by"⟩ readColumnRef entries)).and
      (optionalFilters "having" entries)).and
      (optionalItems ⟨"orderBy", "order_by"⟩ readOrderItem entries)).and
      (optionalInt "limit" entries)).and
      (optionalInt "offset" entries)).and
      (optionalFlag (.simple "distinct") entries))

end VisualQuery

end QueryGateway
