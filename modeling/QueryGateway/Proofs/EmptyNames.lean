import QueryGateway.Proofs.ChangedQueries
import QueryGateway.Proofs.FilterForms
import QueryGateway.Proofs.QueryParts
import QueryGateway.Query.Validation

/-!
# Empty names count as none

A statement is the same whether a qualifier, a schema or a new name is empty or
not given, so a query is compiled as its normal form is, in which no such name
is empty.  Validation does not agree: an empty qualifier is a table of its own
when a column is looked up among those to group by.  The problems are the same
exactly if no column is missed that way.
-/

namespace QueryGateway

open List Sql

/-! ## Normal forms -/

def SelectColumn.normal (item : SelectColumn) : SelectColumn where
  table := present item.table
  column := item.column
  expression := item.expression
  label := present item.label
  aggregate := item.aggregate

def Join.normal (join : Join) : Join where
  table := join.table
  schema := present join.schema
  label := present join.label
  kind := join.kind
  condition := join.condition.map (Filter.mapParts Operand.canonical id)

/-- A query with no name given for each qualifier, schema or new name that is empty. -/
def VisualQuery.normal (query : VisualQuery) : VisualQuery where
  source := query.source.normal
  joins := query.joins.map Join.normal
  columns := query.columns.map SelectColumn.normal
  filters := query.filters.map (Filter.mapParts Operand.canonical id)
  groupBy := query.groupBy.map ColumnRef.normal
  having := query.having.map (Filter.mapParts Operand.canonical id)
  orderBy := query.orderBy.map OrderItem.normal
  limit := query.limit
  offset := query.offset
  distinct := query.distinct

/-! ## Names -/

/-- A name that is not empty is present. -/
theorem Sql.present_of_ne_empty
    {name : String}
    (nonempty : name ≠ "") :
    present (some name) = some name := by
  simpa [present] using nonempty

/-- A present name stays present. -/
theorem Sql.present_present
    (name : Option String) :
    present (present name) = present name := by
  simp [present, Option.filter_filter]

/-- An empty alias is not written. -/
theorem Sql.aliased_present
    (name : Option String) :
    aliased (present name) = aliased name := by
  cases name with
  | none =>
      rfl
  | some name =>
      by_cases empty : name = ""
      · subst empty
        rfl
      · rw [present_of_ne_empty empty]

/-- An empty alias is not written, whatever else filters it. -/
theorem Sql.aliased_filter_present
    (name : Option String)
    (isNew : String → Bool) :
    aliased ((present name).filter isNew) = aliased (name.filter isNew) := by
  have swapped : (present name).filter isNew = present (name.filter isNew) := by
    simp only [present, Option.filter_filter, Bool.and_comm]
  rw [swapped, aliased_present]

/-- An empty qualifier is not written. -/
theorem Sql.columnReference_present
    (table : Option String)
    (column : String) :
    columnReference (present table) column = columnReference table column :=
  qualified_present table column

/-- An empty schema and an empty label are not written. -/
theorem Sql.tableReference_present
    (schema : Option String)
    (table : String)
    (label : Option String) :
    tableReference (present schema) table (present label) =
      tableReference schema table label := by
  rw [tableReference, tableReference, qualified_present, aliased_present]

/-! ## Filters -/

/-- A canonical operand is its own canonical form. -/
theorem Operand.canonical_canonical
    (operand : Operand) :
    operand.canonical.canonical = operand.canonical := by
  cases operand with
  | column table name =>
      rw [canonical, canonical, present_present]
  | literal value =>
      rfl
  | parameter name =>
      rfl

/-- Canonical operands leave the canonical form of a filter as it is. -/
theorem Filter.canonical_mapParts
    (filter : Filter) :
    (filter.mapParts Operand.canonical id).canonical = filter.canonical := by
  have operands : Operand.canonical ∘ Operand.canonical = Operand.canonical :=
    funext Operand.canonical_canonical
  induction filter with
  | logical operator children negate inductionHypothesis =>
      rw [mapParts, mapChildren_eq_map, canonical, canonical, canonicalChildren_eq_map,
        canonicalChildren_eq_map, length_map, map_map]
      congr 2
      exact map_congr_left inductionHypothesis
  | childless operator negate =>
      rfl
  | _ =>
      simp [mapParts, canonical, operands]

/-- A filter over canonical operands is rendered as before. -/
theorem Filter.rendering_mapParts_canonical
    (clause : Clause)
    (filter : Filter) :
    (filter.mapParts Operand.canonical id).rendering clause = filter.rendering clause := by
  rw [← rendering_canonical, canonical_mapParts, rendering_canonical]

/-- Filters with canonical operands have the same text. -/
theorem renderFilters_mapParts_canonical
    (clause : Clause)
    (filters : List Filter) :
    renderFilters clause (filters.map (Filter.mapParts Operand.canonical id)) =
      renderFilters clause filters := by
  cases filters with
  | nil =>
      rfl
  | cons filter rest =>
      cases rest with
      | nil =>
          exact filter.rendering_mapParts_canonical clause
      | cons next rest =>
          simp only [renderFilters, map_cons, map_map, Function.comp_def,
            Filter.rendering_mapParts_canonical]

/-! ## Clauses -/

/-- A selected item without empty names is rendered as before. -/
theorem SelectColumn.rendering_normal
    (item : SelectColumn) :
    item.normal.rendering = item.rendering := by
  obtain ⟨table, column, expression, label, aggregate⟩ := item
  cases expression with
  | none =>
      cases column with
      | none =>
          rfl
      | some column =>
          simp only [rendering, normal, columnReference_present, aliased_filter_present]
  | some expression =>
      cases column with
      | none =>
          simp only [rendering, normal, aliased_present]
      | some column =>
          rfl

/-- A source without empty names is rendered as before. -/
theorem TableRef.rendering_normal
    (source : TableRef) :
    source.normal.rendering = source.rendering := by
  rw [rendering, rendering, normal, tableReference_present]

/-- A join without empty names is rendered as before. -/
theorem Join.rendering_normal
    (dialect : Dialect)
    (join : Join) :
    join.normal.rendering dialect = join.rendering dialect := by
  unfold rendering
  cases condition : join.condition <;>
    simp only [normal, condition, Option.map, tableReference_present,
      Filter.rendering_mapParts_canonical]

/-- A grouped column without an empty qualifier is written as before. -/
theorem ColumnRef.columnReference_normal
    (item : ColumnRef) :
    columnReference item.normal.table item.normal.column =
      columnReference item.table item.column :=
  columnReference_present item.table item.column

/-- An ordered item without empty names is rendered as before. -/
theorem OrderItem.rendering_normal
    (item : OrderItem) :
    item.normal.rendering = item.rendering := by
  rw [rendering, rendering, normal, columnReference_present]

/-- A query and its normal form have the same text. -/
theorem VisualQuery.rendering_normal
    (dialect : Dialect)
    (query : VisualQuery) :
    query.normal.rendering dialect = query.rendering dialect := by
  have select :
      renderSelect query.distinct (query.columns.map SelectColumn.normal) =
        renderSelect query.distinct query.columns := by
    simp only [renderSelect, isEmpty_map, map_map, Function.comp_def,
      SelectColumn.rendering_normal]
  have joins :
      (query.joins.map Join.normal).map (Join.rendering dialect) =
        query.joins.map (Join.rendering dialect) := by
    simp only [map_map, Function.comp_def, Join.rendering_normal]
  have groupBy :
      renderGroupBy (query.groupBy.map ColumnRef.normal) =
        renderGroupBy query.groupBy := by
    simp only [renderGroupBy, map_map, Function.comp_def,
      ColumnRef.columnReference_normal]
  have orderBy :
      renderOrderBy (query.orderBy.map OrderItem.normal) =
        renderOrderBy query.orderBy := by
    simp only [renderOrderBy, map_map, Function.comp_def, OrderItem.rendering_normal]
  simp only [rendering, clauses, normal, select, query.source.rendering_normal, joins,
    renderFilters_mapParts_canonical, isEmpty_map, groupBy, orderBy]

/-! ## Columns that are looked up -/

/-- Whether a column to group by stands for an item but for an empty name of a table, that of the
item or its own. -/
def SelectColumn.meetsEmptyName (groupBy : List ColumnRef) (item : SelectColumn) : Bool :=
  groupBy.any fun reference =>
    item.column = some reference.column &&
      (item.table = some "" || reference.table = some "")

/-- Qualifiers without empty names meet if the qualifiers do or one of them is empty. -/
theorem Sql.present_meets
    (left right : Option String) :
    ((present left).isNone || (present right).isNone || present left = present right) =
      (left.isNone || right.isNone || left = right ||
        (right = some "" || left = some "")) := by
  cases left with
  | none =>
      rfl
  | some left =>
      cases right with
      | none =>
          simp [present]
      | some right =>
          by_cases leftEmpty : left = ""
          · simp [present, leftEmpty]
          · by_cases rightEmpty : right = ""
            · simp [present, rightEmpty]
            · simp [present_of_ne_empty leftEmpty, present_of_ne_empty rightEmpty,
                leftEmpty, rightEmpty]

/-- In normal form a reference also stands for the columns that an empty name kept it from. -/
theorem ColumnRef.matchesColumn_normal
    (reference : ColumnRef)
    (item : SelectColumn) :
    reference.normal.matchesColumn item.normal =
      (reference.matchesColumn item ||
        (item.column = some reference.column &&
          (item.table = some "" || reference.table = some ""))) := by
  rw [matchesColumn, matchesColumn, ← Bool.and_or_distrib_left]
  exact congrArg _ (present_meets reference.table item.table)

/-- Without empty names an item is ungrouped where no empty name stood in for its group. -/
theorem SelectColumn.isUngrouped_normal
    (groupBy : List ColumnRef)
    (item : SelectColumn) :
    item.normal.isUngrouped (groupBy.map ColumnRef.normal) =
      (item.isUngrouped groupBy && !item.meetsEmptyName groupBy) := by
  have matched :
      ((groupBy.map ColumnRef.normal).any fun reference =>
          reference.matchesColumn item.normal) =
        ((groupBy.any fun reference => reference.matchesColumn item) ||
          item.meetsEmptyName groupBy) := by
    simp only [any_map, Function.comp_def, ColumnRef.matchesColumn_normal, meetsEmptyName]
    rw [Bool.eq_iff_iff]
    simp only [any_eq_true, Bool.or_eq_true, and_or_left, exists_or]
  rw [isUngrouped, isUngrouped, matched]
  simp only [normal, Bool.not_or, Bool.and_assoc]

/-- An item is shown by the same name without empty names. -/
theorem SelectColumn.shownName_normal
    (item : SelectColumn) :
    item.normal.shownName = item.shownName := by
  have given :
      (fun name : String => !name.isEmpty) = fun name => decide (name ≠ "") := by
    funext name
    rw [Bool.eq_iff_iff]
    simp
  have labels : (present item.label).filter (· ≠ "") = present item.label :=
    present_present item.label
  simp only [shownName, normal, given, labels]
  rfl

/-! ## Problems -/

/-- A change that keeps which items are bad keeps their numbered problems. -/
theorem numberedProblems_map
    (isBad : α → Bool)
    (change : α → α)
    (unchanged : ∀ item, isBad (change item) = isBad item)
    (problem : Nat → QueryProblem)
    (number : Nat)
    (items : List α) :
    numberedProblems isBad problem number (items.map change) =
      numberedProblems isBad problem number items := by
  induction items generalizing number with
  | nil =>
      rfl
  | cons item rest inductionHypothesis =>
      rw [map_cons, numberedProblems, numberedProblems, unchanged, inductionHypothesis]

/-- The plain columns of a query that are not grouped by. -/
def VisualQuery.ungrouped (query : VisualQuery) : List SelectColumn :=
  query.columns.filter (SelectColumn.isUngrouped query.groupBy)

/-- The plain columns of a query that are not grouped by even if empty names count as none. -/
def VisualQuery.ungroupedAnyway (query : VisualQuery) : List SelectColumn :=
  query.ungrouped.filter fun item => !item.meetsEmptyName query.groupBy

/-- Without empty names those items are ungrouped that are so anyway. -/
theorem VisualQuery.ungrouped_normal
    (query : VisualQuery) :
    query.normal.ungrouped = query.ungroupedAnyway.map SelectColumn.normal := by
  simp only [ungrouped, ungroupedAnyway, normal, filter_map, filter_filter,
    Function.comp_def, SelectColumn.isUngrouped_normal, Bool.and_comm]

/-- What is ungrouped anyway is ungrouped. -/
theorem VisualQuery.ungroupedAnyway_sublist
    (query : VisualQuery) :
    query.ungroupedAnyway <+ query.ungrouped :=
  filter_sublist

/-- Some column is ungrouped for an empty name only, or all ungrouped columns are so anyway. -/
theorem VisualQuery.ungroupedAnyway_cases
    (query : VisualQuery) :
    ((∃ item ∈ query.ungrouped, item.meetsEmptyName query.groupBy = true) ∧
        query.ungroupedAnyway.length < query.ungrouped.length) ∨
      ((¬∃ item ∈ query.ungrouped, item.meetsEmptyName query.groupBy = true) ∧
        query.ungroupedAnyway = query.ungrouped) := by
  by_cases missed : ∃ item ∈ query.ungrouped, item.meetsEmptyName query.groupBy = true
  · refine Or.inl ⟨missed, ?_⟩
    rw [ungroupedAnyway, length_filter_lt_length_iff_exists]
    simpa using missed
  · refine Or.inr ⟨missed, filter_eq_self.mpr fun item member => ?_⟩
    simpa using fun meets => missed ⟨item, member, meets⟩

/-- The grouping is at fault where an aggregate stands beside an ungrouped item. -/
theorem VisualQuery.groupingProblems_eq
    (query : VisualQuery) :
    groupingProblems query =
      if query.columns.any SelectColumn.aggregate && !query.ungrouped.isEmpty then
        [.notGrouped (query.ungrouped.map SelectColumn.shownName)]
      else
        [] :=
  rfl

/-- Without empty names the grouping is at fault for the items that are ungrouped anyway. -/
theorem VisualQuery.groupingProblems_normal
    (query : VisualQuery) :
    groupingProblems query.normal =
      if query.columns.any SelectColumn.aggregate && !query.ungroupedAnyway.isEmpty then
        [.notGrouped (query.ungroupedAnyway.map SelectColumn.shownName)]
      else
        [] := by
  have aggregates :
      query.normal.columns.any SelectColumn.aggregate =
        query.columns.any SelectColumn.aggregate := by
    simp only [normal, any_map]
    rfl
  simp only [groupingProblems_eq, aggregates, ungrouped_normal, isEmpty_map, map_map,
    Function.comp_def, SelectColumn.shownName_normal]

/-- The problems of a query and of its normal form differ at most in the columns to group by. -/
theorem VisualQuery.exists_problems
    (query : VisualQuery) :
    ∃ others,
      query.problems = others ++ groupingProblems query ∧
        query.normal.problems = others ++ groupingProblems query.normal := by
  refine ⟨_, rfl, ?_⟩
  have columns :=
    numberedProblems_map
      (fun item : SelectColumn => decide (item.column.isNone = item.expression.isNone))
      SelectColumn.normal (fun _ => rfl) .notExactlyOne 1 query.columns
  have joins :=
    numberedProblems_map (fun join : Join => Text.isBlankText join.table) Join.normal
      (fun _ => rfl) .noJoinTable 1 query.joins
  have noColumns : query.normal.columns.isEmpty = query.columns.isEmpty :=
    isEmpty_map ..
  rw [problems, noColumns]
  exact congrArg₂ (fun columns joins => _ ++ columns ++ joins ++ _) columns joins

/-! ## Descriptions -/

/-- A separator behind the lists that it stands between stands behind each of them. -/
theorem intercalate_append_separator
    (separator first : List α)
    (rest : List (List α)) :
    separator.intercalate (first :: rest) ++ separator =
      (first :: rest).flatMap (· ++ separator) := by
  induction rest generalizing first with
  | nil =>
      simp
  | cons next rest inductionHypothesis =>
      rw [intercalate_cons_cons, flatMap_cons, ← inductionHypothesis]
      simp only [append_assoc]

/-- Leaving out lists of some length leaves out that length for each of them. -/
theorem length_flatMap_add_le_of_sublist
    {write : α → List β}
    {least : Nat}
    (long : ∀ item, least ≤ (write item).length)
    {kept all : List α}
    (sublist : kept <+ all) :
    (kept.flatMap write).length + least * all.length ≤
      (all.flatMap write).length + least * kept.length := by
  induction sublist with
  | slnil =>
      simp
  | cons item sublist inductionHypothesis =>
      have itemLong := long item
      simp only [flatMap_cons, length_append, length_cons, Nat.mul_succ]
      omega
  | cons_cons item sublist inductionHypothesis =>
      simp only [flatMap_cons, length_append, length_cons, Nat.mul_succ]
      omega

/-- The message names the columns that are not grouped. -/
theorem QueryProblem.message_notGrouped
    (columns : List String) :
    (notGrouped columns).message =
      "Columns without aggregation must appear in GROUP BY: " ++ ", ".intercalate columns :=
  rfl

/-- Fewer columns, if there are any, are described differently. -/
theorem QueryProblem.message_notGrouped_ne
    {kept all : List String}
    (nonempty : kept ≠ [])
    (sublist : kept <+ all)
    (fewer : kept.length < all.length) :
    (notGrouped kept).message ≠ (notGrouped all).message := by
  intro same
  have texts := congrArg String.toList same
  rw [message_notGrouped, message_notGrouped, String.toList_append, String.toList_append,
    append_cancel_left_eq, String.toList_intercalate, String.toList_intercalate] at texts
  -- With a separator behind each name the two texts are equally long, yet one has fewer names.
  have long
      (text : List Char) :
      ", ".toList.length ≤ (text ++ ", ".toList).length := by
    rw [length_append]
    exact Nat.le_add_left ..
  have lengths := length_flatMap_add_le_of_sublist long (sublist.map String.toList)
  obtain ⟨first, rest, rfl⟩ := exists_cons_of_ne_nil nonempty
  obtain ⟨other, others, rfl⟩ := exists_cons_of_length_pos (Nat.zero_lt_of_lt fewer)
  rw [map_cons, map_cons] at texts lengths
  rw [← intercalate_append_separator, ← intercalate_append_separator, texts,
    Nat.add_le_add_iff_left, ← map_cons, ← map_cons, length_map, length_map] at lengths
  exact absurd (Nat.le_of_mul_le_mul_left lengths (by decide)) (Nat.not_le.mpr fewer)

/-- The problem with plain columns beside aggregates is described as it is for the normal form
unless an empty name keeps one of the columns from being grouped by. -/
theorem VisualQuery.messages_groupingProblems_normal
    (query : VisualQuery) :
    (groupingProblems query.normal).map QueryProblem.message =
        (groupingProblems query).map QueryProblem.message ↔
      ¬(query.columns.any SelectColumn.aggregate = true ∧
        ∃ item ∈ query.ungrouped, item.meetsEmptyName query.groupBy = true) := by
  rw [groupingProblems_normal, groupingProblems_eq]
  cases query.columns.any SelectColumn.aggregate with
  | false =>
      simp
  | true =>
      rcases query.ungroupedAnyway_cases with ⟨missed, fewer⟩ | ⟨notMissed, same⟩
      · have sublist := query.ungroupedAnyway_sublist.map SelectColumn.shownName
        have nonempty : query.ungrouped ≠ [] :=
          ne_nil_of_length_pos (Nat.zero_lt_of_lt fewer)
        simp only [missed, and_self, not_true_eq_false, iff_false]
        cases anyway : query.ungroupedAnyway with
        | nil =>
            simp [nonempty]
        | cons item rest =>
            rw [anyway] at sublist fewer
            have different :=
              QueryProblem.message_notGrouped_ne (by simp) sublist (by simpa using fewer)
            simpa [nonempty] using different
      · simp [same, notMissed]

/-- A query is compiled as its normal form is.  The problems of the two are the same unless there
are an aggregate and a plain column that only an empty name keeps from being grouped by. -/
theorem VisualQuery.compile_normal
    (query : VisualQuery) :
    (∀ dialect, query.normal.compile dialect = query.compile dialect) ∧
      (query.normal.validate = query.validate ↔
        ¬(query.columns.any SelectColumn.aggregate = true ∧
          ∃ item ∈ query.columns,
            item.isUngrouped query.groupBy = true ∧
              item.meetsEmptyName query.groupBy = true)) := by
  constructor
  · intro dialect
    rw [compile, compile, rendering_normal]
  · obtain ⟨others, problems, normalProblems⟩ := query.exists_problems
    rw [validate, validate, problems, normalProblems, map_append, map_append,
      append_cancel_left_eq, messages_groupingProblems_normal]
    simp only [ungrouped, mem_filter, and_assoc]

/-- A query that sums by a column whose qualifier is empty. -/
def VisualQuery.summing : VisualQuery where
  source := { table := "sales", schema := none, label := none }
  joins := []
  columns :=
    [{ table := some "", column := some "region", expression := none, label := none,
       aggregate := false },
      { table := none, column := none, expression := some "SUM(x)", label := some "s",
        aggregate := true }]
  filters := []
  groupBy := [{ table := some "s", column := "region" }]
  having := []
  orderBy := []
  limit := none
  offset := none
  distinct := false

/-- An empty qualifier keeps a column from being grouped by that is grouped by without it. -/
theorem VisualQuery.validate_emptyQualifier :
    summing.validate = ["Columns without aggregation must appear in GROUP BY: region"] ∧
      summing.normal.validate = [] := by
  decide

end QueryGateway
