import QueryGateway.Proofs.DumpedQueries
import QueryGateway.Proofs.WritableCells
import QueryGateway.Result.Document

/-!
# The cells of results

Whatever a driver returns, its cell is a closed value, so a result takes it as
it is, normalising it again changes nothing, and it has a literal in every
dialect.  Only a mapping that holds an integer too long to be written has no
cell.
-/

namespace QueryGateway

open List Document DumpStyle

/-! ## Cells are closed -/

namespace Value

/-- The cell of every value is closed. -/
theorem isClosed_of_toCell?
    {value cell : Value}
    (made : value.toCell? = some cell) :
    cell.isClosed = true := by
  induction value using itemInduction generalizing cell with
  | scalar value notSequence =>
      cases value with
      | float value | decimal value =>
          cases made
          split
          · rename_i finite
            exact finite
          · rfl
      | mapping entries =>
          rw [toCell?_mapping] at made
          obtain ⟨shown, _, rfl⟩ := Option.map_eq_some_iff.mp made
          rfl
      | sequence kind items =>
          exact absurd rfl (notSequence kind items)
      | _ =>
          cases made
          rfl
  | sequence kind items inductionHypothesis =>
      rw [toCell?_sequence] at made
      obtain ⟨cells, collected, rfl⟩ := Option.map_eq_some_iff.mp made
      rw [isClosed, areClosed_eq_all, all_eq_true]
      intro cell member
      obtain ⟨item, isItem, itemMade⟩ := exists_of_mem_mapM collected member
      exact inductionHypothesis item isItem itemMade

/-- A closed value is its own cell. -/
theorem toCell?_of_closed
    {value : Value}
    (closed : value.isClosed = true) :
    value.toCell? = some value := by
  induction value using itemInduction with
  | scalar value notSequence =>
      cases value with
      | null | bool | int | text =>
          rfl
      | float value | decimal value =>
          exact congrArg some (if_pos closed)
      | sequence kind items =>
          exact absurd rfl (notSequence kind items)
      | textual | bytes | typeName | foreign | mapping =>
          cases closed
  | sequence kind items inductionHypothesis =>
      cases kind with
      | tuple | set | frozenSet =>
          cases closed
      | list =>
          rw [isClosed, areClosed_eq_all, all_eq_true] at closed
          have collected : items.mapM toCell? = some items := by
            rw [mapM_eq_some_iff, forall₂_same]
            exact fun item member => inductionHypothesis item member (closed item member)
          rw [toCell?_sequence, collected]
          rfl

/-! ## Cells have literals -/

theorem areRenderable_eq_all
    (values : List Value) :
    areRenderable values = values.all isRenderable := by
  induction values with
  | nil =>
      rfl
  | cons value rest inductionHypothesis =>
      simp [areRenderable, inductionHypothesis]

/-- Every closed value is of a kind that can be written. -/
theorem isRenderable_of_closed
    {value : Value}
    (closed : value.isClosed = true) :
    value.isRenderable = true := by
  induction value using itemInduction with
  | scalar value notSequence =>
      cases value with
      | null | bool | int | text | textual =>
          rfl
      | float value | decimal value =>
          exact closed
      | sequence kind items =>
          exact absurd rfl (notSequence kind items)
      | bytes | typeName | foreign | mapping =>
          cases closed
  | sequence kind items inductionHypothesis =>
      cases kind with
      | tuple | set | frozenSet =>
          cases closed
      | list =>
          rw [isClosed, areClosed_eq_all, all_eq_true] at closed
          rw [isRenderable, areRenderable_eq_all, Bool.and_eq_true, all_eq_true]
          exact ⟨rfl, fun item member =>
            inductionHypothesis item member (closed item member)⟩

/-- The cell of a value with short integers has short integers. -/
theorem hasShortIntegers_of_toCell?
    {value cell : Value}
    (short : value.hasShortIntegers = true)
    (made : value.toCell? = some cell) :
    cell.hasShortIntegers = true := by
  induction value using itemInduction generalizing cell with
  | scalar value notSequence =>
      cases value with
      | float value | decimal value =>
          cases made
          split <;> rfl
      | int value =>
          cases made
          exact short
      | mapping entries =>
          rw [toCell?_mapping] at made
          obtain ⟨shown, _, rfl⟩ := Option.map_eq_some_iff.mp made
          rfl
      | sequence kind items =>
          exact absurd rfl (notSequence kind items)
      | _ =>
          cases made
          rfl
  | sequence kind items inductionHypothesis =>
      rw [toCell?_sequence] at made
      obtain ⟨cells, collected, rfl⟩ := Option.map_eq_some_iff.mp made
      rw [hasShortIntegers, haveShortIntegers_eq_all, all_eq_true] at short ⊢
      intro cell member
      obtain ⟨item, isItem, itemMade⟩ := exists_of_mem_mapM collected member
      exact inductionHypothesis item isItem (short item isItem) itemMade

/-- In a value with short integers those in its mappings are short. -/
theorem hasShortMappings_of_short
    {value : Value}
    (short : value.hasShortIntegers = true) :
    value.hasShortMappings = true := by
  induction value using itemInduction with
  | scalar value notSequence =>
      cases value with
      | mapping entries =>
          exact short
      | sequence kind items =>
          exact absurd rfl (notSequence kind items)
      | _ =>
          rfl
  | sequence kind items inductionHypothesis =>
      rw [hasShortIntegers, haveShortIntegers_eq_all, all_eq_true] at short
      rw [hasShortMappings, haveShortMappings_eq_all, all_eq_true]
      exact fun item member => inductionHypothesis item member (short item member)

/-- A closed value is written in a dialect if its integers are short enough. -/
theorem literalText_of_closed
    (dialect : Sql.Dialect)
    {value : Value}
    (closed : value.isClosed = true)
    (short : value.hasShortIntegers = true) :
    ∃ text, Sql.literalText dialect value = .ok text := by
  obtain ⟨pieces, written⟩ :=
    (Sql.literal_isOk_iff value).mpr ⟨isRenderable_of_closed closed, short⟩
  exact ⟨_, by rw [Sql.literalText, written]; rfl⟩

end Value

/-! ## Results take cells -/

namespace Column

/-- The fields of a column with their values. -/
def fieldValues (column : Column) : List (Field × Value) :=
  [(.simple "name", .text column.name), (.simple "type", .text column.type),
    (.simple "nullable", .bool column.nullable)]

theorem dump_eq
    (style : DumpStyle)
    (column : Column) :
    column.dump = .mapping (style.entries column.fieldValues) := by
  cases leavesOut : style.withoutNull <;>
    simp [dump, fieldValues, entries, writes, Value.record, Value.isNull,
      leavesOut]

theorem ofValue_dump
    (model : String)
    (column : Column) :
    ofValue model column.dump = .ok column := by
  have fills :
      Fills [.simple "name", .simple "type", .simple "nullable"]
        column.fieldValues :=
    ⟨rfl, by decide⟩
  have nullableRead : readBool (.bool column.nullable) = .ok column.nullable := rfl
  rw [dump_eq ⟨true, false⟩, ofValue]
  apply readRecord_entries fills
  rw [requiredText_entries fills _ column.name (by simp [fieldValues]),
    requiredText_entries fills _ column.type (by simp [fieldValues]),
    optional_entries fills (by simp [fieldValues]) nullableRead (by rintro ⟨⟩)]
  rfl

end Column

namespace QueryResult

/-- The fields of a result with their values. -/
def fieldValues (result : QueryResult) : List (Field × Value) :=
  [(.simple "columns", .list (result.columns.map Column.dump)),
    (.simple "rows", .list (result.rows.map Value.list)),
    (⟨"rowCount", "row_count"⟩, .int result.rowCount),
    (⟨"executionTimeMs", "execution_time_ms"⟩, .float result.executionTimeMs),
    (.simple "truncated", .bool result.truncated)]

/-- A result as a record whose fields go by their document names or by their plain names. -/
def document (style : DumpStyle) (result : QueryResult) : Value :=
  .mapping (style.entries result.fieldValues)

/-- A row of closed values is read as itself. -/
theorem readRow_of_closed
    {row : List Value}
    (closed : ∀ cell ∈ row, cell.isClosed = true) :
    readItems .listType readLiteral (.list row) = .ok row := by
  have isRead :=
    Checked.indexed_map
      (fun cell member => readLiteral_of_closed (closed cell member)) 0
  rw [map_id'] at isRead
  rw [readItems, itemsOf?]
  exact isRead

/-- A result of closed values is read as itself. -/
theorem ofValue_document
    (style : DumpStyle)
    {result : QueryResult}
    (closed : ∀ row ∈ result.rows, ∀ cell ∈ row, cell.isClosed = true) :
    ofValue (result.document style) = .ok result := by
  have fills : Fills fields result.fieldValues :=
    ⟨rfl, by decide⟩
  have columnsRead :
      readItems .listType (Column.ofValue "ColumnMeta")
          (.list (result.columns.map Column.dump)) =
        .ok result.columns :=
    Checked.indexed_map (fun column _ => column.ofValue_dump "ColumnMeta") 0
  have rowsRead :
      readItems .listType (readItems .listType readLiteral)
          (.list (result.rows.map Value.list)) =
        .ok result.rows :=
    Checked.indexed_map
      (fun row member => readRow_of_closed (closed row member)) 0
  have countRead : readInt (.int result.rowCount) = .ok result.rowCount := rfl
  have timeRead :
      readFloat (.float result.executionTimeMs) = .ok result.executionTimeMs := rfl
  have truncatedRead : readBool (.bool result.truncated) = .ok result.truncated := rfl
  rw [document, ofValue]
  apply readRecord_entries fills
  rw [required_entries fills (by simp [fieldValues]) columnsRead rfl,
    optional_entries fills (by simp [fieldValues]) rowsRead (by rintro ⟨⟩),
    optional_entries fills (by simp [fieldValues]) countRead (by rintro ⟨⟩),
    optional_entries fills (by simp [fieldValues]) timeRead (by rintro ⟨⟩),
    optional_entries fills (by simp [fieldValues]) truncatedRead (by rintro ⟨⟩)]
  rfl

end QueryResult

/-- What becomes of a value as a cell of a result.  Making a cell writes the mappings of the value,
so that an integer in one of them must be short; all other parts become cells whatever they hold. -/
structure Value.CellSettled (value : Value) : Prop where
  /-- A value has a cell if the integers in its mappings are short. -/
  made : value.hasShortMappings = true → ∃ cell, value.toCell? = some cell
  /-- If no entry of a mapping hides another one, it has a cell only then. -/
  unmade :
    value.everyPart hasDistinctKeys = true → value.hasShortMappings = false →
      value.toCell? = none
  /-- A cell is closed. -/
  closed : ∀ cell, value.toCell? = some cell → cell.isClosed = true
  /-- Normalising a cell again changes nothing. -/
  again : ∀ cell, value.toCell? = some cell → cell.toCell? = some cell
  /-- A result of cells takes each of them as it is. -/
  taken :
    ∀ (style : DumpStyle) (result : QueryResult),
      (∀ row ∈ result.rows, ∀ cell ∈ row, ∃ held : Value, held.toCell? = some cell) →
        QueryResult.ofValue (result.document style) = .ok result
  /-- The cell of a value with short integers has short integers. -/
  short :
    value.hasShortIntegers = true →
      ∃ cell, value.toCell? = some cell ∧ cell.hasShortIntegers = true
  /-- A cell with short integers is written in every dialect. -/
  written :
    ∀ cell, value.toCell? = some cell → cell.hasShortIntegers = true →
      ∀ dialect, ∃ text, Sql.literalText dialect cell = .ok text

/-- A number that is too long to be written stands in a list, but not in a mapping. -/
example
    (value : Int)
    (long : Numeral.isWritable value = false) :
    (Value.list [.int value]).toCell? = some (.list [.int value]) ∧
      (Value.mapping [(.text "a", .int value)]).toCell? = none := by
  refine ⟨rfl, ?_⟩
  simp [Value.toCell?, Value.toJsonMembers?, Value.toJson?, Value.plainText?,
    Value.hasShortIntegers, Json.ofMembers, Json.putMember, Json.text?, Json.isWritable,
    Json.areWritableMembers, long]

end QueryGateway
