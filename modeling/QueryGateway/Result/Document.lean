import QueryGateway.Query.Reader
import QueryGateway.Result.Basic

/-!
# Results as documents

Results are read from documents and written as documents; their fields have a
document name beside the plain one.
-/

namespace QueryGateway

open Document

/-- Read a column; `model` names the kind of column in issues. -/
def Column.ofValue (model : String) : Value → Checked Column :=
  let nullable := Field.simple "nullable"
  readRecord (.modelType model) [.simple "name", .simple "type", nullable] fun entries =>
    (((Checked.and (.ok Column.mk) ((Field.simple "name").required readText entries)).and
      ((Field.simple "type").required readText entries)).and
      (nullable.optional true readBool entries))

/-- A column as a document. -/
def Column.dump (column : Column) : Value :=
  .record
    [("name", .text column.name), ("type", .text column.type), ("nullable", .bool column.nullable)]

namespace QueryResult

/-- The fields of a result in order of declaration. -/
def fields : List Field :=
  [.simple "columns", .simple "rows", ⟨"rowCount", "row_count"⟩,
    ⟨"executionTimeMs", "execution_time_ms"⟩, .simple "truncated"]

/-- Read a result from a decoded document. -/
def ofValue : Value → Checked QueryResult :=
  readRecord (.modelType "QueryResult") fields fun entries =>
    (((((Checked.and (.ok QueryResult.mk)
      ((Field.simple "columns").required (readItems .listType (Column.ofValue "ColumnMeta"))
        entries)).and
      ((Field.simple "rows").optional [] (readItems .listType (readItems .listType readLiteral))
        entries)).and
      (Field.optional ⟨"rowCount", "row_count"⟩ 0 readInt entries)).and
      (Field.optional ⟨"executionTimeMs", "execution_time_ms"⟩ (.ofInt 0) readFloat entries)).and
      ((Field.simple "truncated").optional false readBool entries))

/-- The fields of a result as a document, the time that it took apart. -/
def dumpTimeless (result : QueryResult) : List (String × Value) :=
  [("columns", .list (result.columns.map Column.dump)),
    ("rows", .list (result.rows.map Value.list)), ("rowCount", .int result.rowCount),
    ("truncated", .bool result.truncated)]

/-- A result as a document. -/
def dump (result : QueryResult) : Value :=
  .record (result.dumpTimeless ++ [("executionTimeMs", .float result.executionTimeMs)])

end QueryResult

namespace ProbeResult

/-- Read the outcome of a probe from a decoded document. -/
def ofValue : Value → Checked ProbeResult :=
  let duration : Field := ⟨"durationMs", "duration_ms"⟩
  readRecord (.modelType "ConnectionTestResult")
    [.simple "success", .simple "message", duration] fun entries =>
      (((Checked.and (.ok ProbeResult.mk)
        ((Field.simple "success").required readBool entries)).and
        ((Field.simple "message").required readText entries)).and
        (duration.required readFloat entries))

/-- The fields of an outcome as a document, the time that it took apart. -/
def dumpTimeless (result : ProbeResult) : List (String × Value) :=
  [("success", .bool result.success), ("message", .text result.message)]

/-- The outcome of a probe as a document. -/
def dump (result : ProbeResult) : Value :=
  .record (result.dumpTimeless ++ [("durationMs", .float result.durationMs)])

end ProbeResult

namespace TableInfo

/-- Read a table from a decoded document. -/
def ofValue : Value → Checked TableInfo :=
  readRecord (.modelType "TableInfo") [.simple "name", .simple "type", .simple "columns"]
    fun entries =>
      (((Checked.and (.ok TableInfo.mk) ((Field.simple "name").required readText entries)).and
        ((Field.simple "type").optional "TABLE" readText entries)).and
        ((Field.simple "columns").optional [] (readItems .listType (Column.ofValue "ColumnInfo"))
          entries))

/-- A table as a document. -/
def dump (table : TableInfo) : Value :=
  .record
    [("name", .text table.name), ("type", .text table.type),
      ("columns", .list (table.columns.map Column.dump))]

end TableInfo

end QueryGateway
