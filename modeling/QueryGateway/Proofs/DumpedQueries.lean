import QueryGateway.Proofs.DumpedFilters
import QueryGateway.Query.Document

/-!
# Reading queries that were written

A query is read back from its document, whichever names its fields are written
with and whether or not fields that hold nothing are left out.
-/

namespace QueryGateway

open List Document DumpStyle

/-! ## Fields of records -/

/-- A kind of join is read from its name. -/
theorem JoinKind.readChoice_name
    (kind : JoinKind) :
    readChoice all name (.text kind.name) = .ok kind := by
  cases kind <;> rfl

/-- A direction is read from its name. -/
theorem SortDirection.readChoice_name
    (direction : SortDirection) :
    readChoice all name (.text direction.name) = .ok direction := by
  cases direction <;> rfl

section

variable {style : DumpStyle} {fields : List Field} {parts : List (Field × Value)}
variable (fills : Fills fields parts) (field : Field)

include fills

/-- A text that is required is read from its entry. -/
theorem requiredText_entries
    (text : String)
    (member : (field, .text text) ∈ parts) :
    field.required readText (style.entries parts) = .ok text := by
  apply required_entries fills member
  · rfl
  · rfl

/-- A number that may be missing is read from its entry. -/
theorem optionalInt_entries
    (name : String)
    (held : Option Int)
    (member : (.simple name, .ofInt? held) ∈ parts) :
    VisualQuery.optionalInt name (style.entries parts) = .ok held :=
  nullable_entries fills member (readOptional_ofInt? held)

/-- Parts that are read back one by one are read back from a field. -/
theorem optionalItems_entries
    {write : α → Value}
    {read : Value → Checked α}
    (items : List α)
    (isRead : ∀ item ∈ items, read (write item) = .ok item)
    (member : (field, .tuple (items.map write)) ∈ parts) :
    VisualQuery.optionalItems field read (style.entries parts) = .ok items := by
  apply optional_entries fills member
  · rw [readItems, itemsOf?]
    exact Checked.indexed_map isRead 0
  · rintro ⟨⟩

/-- The filters of a query are read from their entry. -/
theorem optionalFilters_entries
    (name : String)
    {filters : List Filter}
    (closed : filters.all Filter.isClosed = true)
    (member : (.simple name, .tuple (dumpFilters style filters)) ∈ parts) :
    VisualQuery.optionalFilters name (style.entries parts) = .ok filters := by
  rw [all_eq_true] at closed
  apply optional_entries fills member
  · rw [readFilters]
    exact readFilterItems_dumpFilters fun filter isFilter =>
      filter.readFilter_dump style (closed filter isFilter)
  · rintro ⟨⟩

end

/-! ## Records of a query -/

namespace TableRef

/-- The fields of a table with their values. -/
def fieldValues (source : TableRef) : List (Field × Value) :=
  [(tableField, .text source.table), (schemaField, .ofText? source.schema),
    (aliasField, .ofText? source.label)]

/-- A dumped source is a mapping of its fields. -/
theorem dump_eq
    (style : DumpStyle)
    (source : TableRef) :
    source.dump style = .mapping (style.entries source.fieldValues) := by
  rw [← record_eq]
  simp [dump, fieldValues]

/-- A source is read back from its dump. -/
theorem readTableRef_dump
    (style : DumpStyle)
    (source : TableRef) :
    readTableRef (source.dump style) = .ok source := by
  have fills : Fills [tableField, schemaField, aliasField] source.fieldValues :=
    ⟨rfl, by decide⟩
  rw [dump_eq, readTableRef]
  apply readRecord_entries fills
  rw [requiredText_entries fills _ source.table (by simp [fieldValues]),
    optionalText_entries fills _ source.schema (by simp [fieldValues]),
    optionalText_entries fills _ source.label (by simp [fieldValues])]
  rfl

end TableRef

namespace SelectColumn

/-- The fields of a selected item with their values. -/
def fieldValues (item : SelectColumn) : List (Field × Value) :=
  [(tableField, .ofText? item.table), (columnField, .ofText? item.column),
    (.simple "expression", .ofText? item.expression),
    (aliasField, .ofText? item.label), (.simple "aggregate", .bool item.aggregate)]

/-- A dumped item is a mapping of its fields. -/
theorem dump_eq
    (style : DumpStyle)
    (item : SelectColumn) :
    item.dump style = .mapping (style.entries item.fieldValues) := by
  rw [← record_eq]
  simp [dump, fieldValues]

/-- A selected item is read back from its dump. -/
theorem readSelectColumn_dump
    (style : DumpStyle)
    (item : SelectColumn) :
    readSelectColumn (item.dump style) = .ok item := by
  have fills :
      Fills
        [tableField, columnField, .simple "expression", aliasField,
          .simple "aggregate"]
        item.fieldValues :=
    ⟨rfl, by decide⟩
  rw [dump_eq, readSelectColumn]
  apply readRecord_entries fills
  rw [optionalText_entries fills _ item.table (by simp [fieldValues]),
    optionalText_entries fills _ item.column (by simp [fieldValues]),
    optionalText_entries fills _ item.expression (by simp [fieldValues]),
    optionalText_entries fills _ item.label (by simp [fieldValues]),
    optionalFlag_entries fills _ item.aggregate (by simp [fieldValues])]
  rfl

end SelectColumn

namespace ColumnRef

/-- The fields of a column to group by with their values. -/
def fieldValues (item : ColumnRef) : List (Field × Value) :=
  [(tableField, .ofText? item.table), (columnField, .text item.column)]

/-- A dumped column is a mapping of its fields. -/
theorem dump_eq
    (style : DumpStyle)
    (item : ColumnRef) :
    item.dump style = .mapping (style.entries item.fieldValues) := by
  rw [← record_eq]
  simp [dump, fieldValues]

/-- A grouped column is read back from its dump. -/
theorem readColumnRef_dump
    (style : DumpStyle)
    (item : ColumnRef) :
    readColumnRef (item.dump style) = .ok item := by
  have fills : Fills [tableField, columnField] item.fieldValues :=
    ⟨rfl, by decide⟩
  rw [dump_eq, readColumnRef]
  apply readRecord_entries fills
  rw [optionalText_entries fills _ item.table (by simp [fieldValues]),
    requiredText_entries fills _ item.column (by simp [fieldValues])]
  rfl

end ColumnRef

namespace Join

/-- Whether the constants in the condition of a join are closed values. -/
def isClosed (join : Join) : Bool :=
  join.condition.all Filter.isClosed

/-- The fields of a join with their values. -/
def fieldValues (style : DumpStyle) (join : Join) : List (Field × Value) :=
  [(tableField, .text join.table), (schemaField, .ofText? join.schema),
    (aliasField, .ofText? join.label), (typeField, .text join.kind.name),
    (.simple "on", (join.condition.map (Filter.dump style)).getD .null)]

/-- A dumped join is a mapping of its fields. -/
theorem dump_eq
    (style : DumpStyle)
    (join : Join) :
    join.dump style = .mapping (style.entries (join.fieldValues style)) := by
  rw [← record_eq]
  simp [dump, fieldValues]

/-- A join is read back. -/
theorem readJoin_dump
    (style : DumpStyle)
    {join : Join}
    (closed : join.isClosed = true) :
    readJoin (join.dump style) = .ok join := by
  have fills :
      Fills [tableField, schemaField, aliasField, typeField, .simple "on"]
        (join.fieldValues style) :=
    ⟨rfl, by decide⟩
  have conditionRead :
      readOptional readFilter
          ((join.condition.map (Filter.dump style)).getD .null) =
        .ok join.condition := by
    apply readOptional_map
    · intro condition isCondition
      rw [isClosed, isCondition] at closed
      exact condition.readFilter_dump style closed
    · intro filter
      rw [Filter.dump_eq]
      rfl
  rw [dump_eq, readJoin]
  apply readRecord_entries fills
  rw [requiredText_entries fills _ join.table (by simp [fieldValues]),
    optionalText_entries fills _ join.schema (by simp [fieldValues]),
    optionalText_entries fills _ join.label (by simp [fieldValues]),
    optional_entries fills (by simp [fieldValues]) join.kind.readChoice_name (by rintro ⟨⟩),
    nullable_entries fills (by simp [fieldValues]) conditionRead]
  rfl

end Join

namespace OrderItem

/-- The fields of a column to order by with their values. -/
def fieldValues (item : OrderItem) : List (Field × Value) :=
  [(tableField, .ofText? item.table), (columnField, .text item.column),
    (.simple "direction", .text item.direction.name)]

/-- A dumped item of the ordering is a mapping of its fields. -/
theorem dump_eq
    (style : DumpStyle)
    (item : OrderItem) :
    item.dump style = .mapping (style.entries item.fieldValues) := by
  rw [← record_eq]
  simp [dump, fieldValues]

/-- An item of the ordering is read back from its dump. -/
theorem readOrderItem_dump
    (style : DumpStyle)
    (item : OrderItem) :
    readOrderItem (item.dump style) = .ok item := by
  have fills : Fills [tableField, columnField, .simple "direction"] item.fieldValues :=
    ⟨rfl, by decide⟩
  rw [dump_eq, readOrderItem]
  apply readRecord_entries fills
  rw [optionalText_entries fills _ item.table (by simp [fieldValues]),
    requiredText_entries fills _ item.column (by simp [fieldValues]),
    optional_entries fills (by simp [fieldValues]) item.direction.readChoice_name
      (by rintro ⟨⟩)]
  rfl

end OrderItem

/-! ## Queries -/

namespace VisualQuery

/-- Whether the constants of a query are closed values, those of a condition that is not written
too. -/
def isClosed (query : VisualQuery) : Bool :=
  query.joins.all Join.isClosed && query.filters.all Filter.isClosed &&
    query.having.all Filter.isClosed

/-- The fields of a query with their values. -/
def fieldValues (style : DumpStyle) (query : VisualQuery) : List (Field × Value) :=
  [(.simple "source", query.source.dump style),
    (.simple "joins", .tuple (query.joins.map (Join.dump style))),
    (.simple "columns", .tuple (query.columns.map (SelectColumn.dump style))),
    (.simple "filters", .tuple (dumpFilters style query.filters)),
    (⟨"groupBy", "group_by"⟩, .tuple (query.groupBy.map (ColumnRef.dump style))),
    (.simple "having", .tuple (dumpFilters style query.having)),
    (⟨"orderBy", "order_by"⟩, .tuple (query.orderBy.map (OrderItem.dump style))),
    (.simple "limit", .ofInt? query.limit), (.simple "offset", .ofInt? query.offset),
    (.simple "distinct", .bool query.distinct)]

/-- A dumped query is a mapping of its fields. -/
theorem dump_eq
    (style : DumpStyle)
    (query : VisualQuery) :
    query.dump style = .mapping (style.entries (query.fieldValues style)) := by
  rw [← record_eq]
  simp [dump, fieldValues]

/-- A query is read back from its document, whichever way it is described: every constant in it is
the value that it was, of the same type. -/
theorem parse_dump
    (style : DumpStyle)
    {query : VisualQuery}
    (closed : query.isClosed = true) :
    QueryDocument.parse (.decoded (query.dump style)) = .ok query := by
  have fills : Fills fields (query.fieldValues style) :=
    ⟨rfl, by decide⟩
  rw [isClosed, Bool.and_eq_true, Bool.and_eq_true] at closed
  obtain ⟨⟨joinsClosed, filtersClosed⟩, havingClosed⟩ := closed
  rw [all_eq_true] at joinsClosed
  have notNull : (query.source.dump style).isNull = false := by
    rw [TableRef.dump_eq]
    rfl
  have isRead : ofValue (query.dump style) = .ok query := by
    rw [dump_eq]
    apply readRecord_entries fills
    rw [required_entries fills (by simp [fieldValues]) (query.source.readTableRef_dump style)
        notNull,
      optionalItems_entries fills (.simple "joins") query.joins
        (fun join member => join.readJoin_dump style (joinsClosed join member))
        (by simp [fieldValues]),
      optionalItems_entries fills (.simple "columns") query.columns
        (fun item _ => item.readSelectColumn_dump style) (by simp [fieldValues]),
      optionalFilters_entries fills "filters" filtersClosed (by simp [fieldValues]),
      optionalItems_entries fills ⟨"groupBy", "group_by"⟩ query.groupBy
        (fun item _ => item.readColumnRef_dump style) (by simp [fieldValues]),
      optionalFilters_entries fills "having" havingClosed (by simp [fieldValues]),
      optionalItems_entries fills ⟨"orderBy", "order_by"⟩ query.orderBy
        (fun item _ => item.readOrderItem_dump style) (by simp [fieldValues]),
      optionalInt_entries fills "limit" query.limit (by simp [fieldValues]),
      optionalInt_entries fills "offset" query.offset (by simp [fieldValues]),
      optionalFlag_entries fills _ query.distinct (by simp [fieldValues])]
    rfl
  rw [dump_eq] at isRead ⊢
  rw [QueryDocument.parse, parseValue, isRead]
  · rintro content ⟨⟩
  · rintro data ⟨⟩

/-- A query with constants that are alike: a truth value, numbers of three types and a text, some
of them in lists, one in the condition of a cross join and one beside a negated pattern. -/
def assorted : VisualQuery where
  source := { table := "t", schema := some "", label := none }
  joins :=
    [{ table := "u", schema := none, label := some "schema_name", kind := .cross,
       condition := some (.isNull (some (.literal (.bool true))) false) }]
  columns :=
    [{ table := none, column := some "a", expression := none, label := none,
       aggregate := false }]
  filters :=
    [.logical (some .or)
      (some
        [.membership (some (.column none (some "a")))
          (some [.literal (.int 1), .literal (.float (.finite false 1 0)),
            .literal (.decimal (.finite false 10 (-1))), .literal .null,
            .literal (.list [.bool true, .list [.text "1", .null], .list []])]) false,
          .logical none none true,
          .like none (some "1") true]) false]
  groupBy := [{ table := some "t", column := "" }]
  having := [.comparison none (some .neq) (some (.parameter none)) true]
  orderBy := [{ table := none, column := "a", direction := .desc }]
  limit := some (-1)
  offset := none
  distinct := true

/-- The assorted constants are read back from a document that uses document names and leaves out
what holds nothing. -/
theorem parse_dump_assorted :
    assorted.isClosed = true ∧
      QueryDocument.parse (.decoded (assorted.dump ⟨true, true⟩)) = .ok assorted := by
  have closed : assorted.isClosed = true := by
    decide +kernel
  exact ⟨closed, parse_dump ⟨true, true⟩ closed⟩

end VisualQuery

end QueryGateway
