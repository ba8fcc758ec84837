import Mathlib.Data.List.Forall2
import QueryGateway.Proofs.ParameterNames

/-!
# The rendering of a changed query

A query can be changed part by part: its names, its operands, its patterns.
A relation between renderings that is kept when renderings are put together
(`Rendering.Congruence`) holds between a query and the changed one as soon as
it holds between each part and the changed part.  Giving values to parameters
and forgetting contents are both such changes.
-/

namespace QueryGateway

open List Sql

/-! ## Changing parts -/

/-- A change of names that keeps different names different and no name empty but the empty one. -/
structure Renaming where
  apply : String → String
  injective : Function.Injective apply
  empty : apply "" = ""

/-- The change of names that changes none. -/
def Renaming.identity : Renaming where
  apply := id
  injective := Function.injective_id
  empty := rfl

/-- Only the empty name is renamed to the empty name. -/
theorem Renaming.eq_empty_iff
    (names : Renaming)
    {name : String} :
    names.apply name = "" ↔ name = "" := by
  constructor
  · intro isEmpty
    exact names.injective (isEmpty.trans names.empty.symm)
  · rintro rfl
    exact names.empty

/-- A renaming keeps which names are empty. -/
theorem Renaming.isEmpty_apply
    (names : Renaming)
    (name : String) :
    (names.apply name).isEmpty = name.isEmpty := by
  rw [Bool.eq_iff_iff, String.isEmpty_iff, String.isEmpty_iff,
    names.eq_empty_iff]

namespace Filter

variable (operand : Operand → Operand) (pattern : String → String)

mutual

/-- A filter with every operand and every pattern changed. -/
def mapParts : Filter → Filter
  | .comparison left operator right negate =>
      .comparison (left.map operand) operator (right.map operand) negate
  | .logical operator none negate =>
      .logical operator none negate
  | .logical operator (some children) negate =>
      .logical operator (some (mapChildren children)) negate
  | .membership column values negate =>
      .membership (column.map operand) (values.map (List.map operand)) negate
  | .between column low high negate =>
      .between (column.map operand) (low.map operand) (high.map operand) negate
  | .isNull column negate =>
      .isNull (column.map operand) negate
  | .isNotNull column negate =>
      .isNotNull (column.map operand) negate
  | .like column text negate =>
      .like (column.map operand) (text.map pattern) negate

/-- Several filters with every operand and every pattern changed. -/
def mapChildren : List Filter → List Filter
  | [] => []
  | child :: rest => child.mapParts :: mapChildren rest

end

/-- The children of a filter are changed one by one. -/
theorem mapChildren_eq_map
    (children : List Filter) :
    mapChildren operand pattern children =
      children.map (mapParts operand pattern) := by
  induction children with
  | nil =>
      rfl
  | cons child rest inductionHypothesis =>
      simp [mapChildren, inductionHypothesis]

end Filter

variable (names : Renaming)

/-- A table under changed names. -/
def TableRef.rename (source : TableRef) : TableRef where
  table := names.apply source.table
  schema := source.schema.map names.apply
  label := source.label.map names.apply

/-- A selected item under changed names; an expression stays as it is. -/
def SelectColumn.rename (item : SelectColumn) : SelectColumn where
  table := item.table.map names.apply
  column := item.column.map names.apply
  expression := item.expression
  label := item.label.map names.apply
  aggregate := item.aggregate

/-- A column to group by under changed names. -/
def ColumnRef.rename (item : ColumnRef) : ColumnRef where
  table := item.table.map names.apply
  column := names.apply item.column

/-- A column to order by under changed names. -/
def OrderItem.rename (item : OrderItem) : OrderItem where
  table := item.table.map names.apply
  column := names.apply item.column
  direction := item.direction

/-- A join under changed names with a changed condition. -/
def Join.mapParts
    (operand : Operand → Operand)
    (pattern : String → String)
    (join : Join) :
    Join where
  table := names.apply join.table
  schema := join.schema.map names.apply
  label := join.label.map names.apply
  kind := join.kind
  condition := join.condition.map (Filter.mapParts operand pattern)

/-- A query under changed names with every operand and every pattern changed. -/
def VisualQuery.mapParts
    (operand : Operand → Operand)
    (pattern : String → String)
    (query : VisualQuery) :
    VisualQuery where
  source := query.source.rename names
  joins := query.joins.map (Join.mapParts names operand pattern)
  columns := query.columns.map (SelectColumn.rename names)
  filters := query.filters.map (Filter.mapParts operand pattern)
  groupBy := query.groupBy.map (ColumnRef.rename names)
  having := query.having.map (Filter.mapParts operand pattern)
  orderBy := query.orderBy.map (OrderItem.rename names)
  limit := query.limit
  offset := query.offset
  distinct := query.distinct

/-- The expressions of a query are not changed. -/
theorem VisualQuery.plain_mapParts
    (operand : Operand → Operand)
    (pattern : String → String)
    {query : VisualQuery} :
    (query.mapParts names operand pattern).ExpressionsArePlain ↔
      query.ExpressionsArePlain := by
  simp [ExpressionsArePlain, mapParts, SelectColumn.rename]

/-! ## Relations that are kept -/

namespace Rendering

/-- A relation that is kept when renderings are put together.  It holds between what is written
without placeholders and itself, and between any two failures. -/
structure Congruence (related : Rendering → Rendering → Prop) : Prop where
  fixed :
    ∀ pieces, pieces.filterMap Piece.name? = [] →
      related (of pieces) (of pieces)
  fail :
    ∀ error otherError, related (fail error) (fail otherError)
  append :
    ∀ {first changedFirst second changedSecond : Rendering},
      related first changedFirst →
      related second changedSecond →
      related (first ++ second) (changedFirst ++ changedSecond)

namespace Congruence

variable {related : Rendering → Rendering → Prop}
variable (congruence : Congruence related)

include congruence

/-- Bare text is related to itself. -/
theorem bare
    (text : String) :
    related (Rendering.bare text) (Rendering.bare text) :=
  congruence.fixed _ rfl

/-- What is divided by a text is related part by part. -/
theorem divided
    (text : String)
    {first changedFirst second changedSecond : Rendering}
    (firstRelated : related first changedFirst)
    (secondRelated : related second changedSecond) :
    related (first ++ Rendering.bare text ++ second)
      (changedFirst ++ Rendering.bare text ++ changedSecond) :=
  congruence.append (congruence.append firstRelated (congruence.bare text))
    secondRelated

/-- What is enclosed alike is related if the inner parts are. -/
theorem between
    (opening closing : String)
    {inner changedInner : Rendering}
    (innerRelated : related inner changedInner) :
    related (Rendering.between opening inner closing)
      (Rendering.between opening changedInner closing) :=
  congruence.append
    (congruence.append (congruence.bare opening) innerRelated)
    (congruence.bare closing)

/-- Related renderings stay related with a separator between each two. -/
theorem joined
    (separator : String)
    {renderings changedRenderings : List Rendering}
    (allRelated : Forall₂ related renderings changedRenderings) :
    related (Rendering.joined separator renderings)
      (Rendering.joined separator changedRenderings) := by
  induction allRelated with
  | nil =>
      exact congruence.fixed _ rfl
  | cons first rest inductionHypothesis =>
      cases rest with
      | nil =>
          exact first
      | cons next rest =>
          exact congruence.divided separator first inductionHypothesis

/-- Parts and changed parts stay related with a separator between each two. -/
theorem joined_map
    (separator : String)
    {render : α → Rendering}
    {change : α → α}
    {parts : List α}
    (partsRelated :
      ∀ part ∈ parts, related (render part) (render (change part))) :
    related (Rendering.joined separator (parts.map render))
      (Rendering.joined separator ((parts.map change).map render)) := by
  apply congruence.joined
  rw [map_map, forall₂_map_left_iff, forall₂_map_right_iff, forall₂_same]
  exact partsRelated

end Congruence

end Rendering

/-- A qualifier that is not empty is written. -/
theorem Sql.qualified_of_ne_empty
    {qualifier : String}
    (nonempty : qualifier ≠ "")
    (name : String) :
    qualified (some qualifier) name =
      [.identifier qualifier, .bare ".", .identifier name] := by
  simp [qualified]

/-- A new name that is not empty is written. -/
theorem Sql.aliased_of_ne_empty
    {name : String}
    (nonempty : name ≠ "") :
    aliased (some name) = [.bare " AS ", .identifier name] := by
  simp [aliased]

/-- A relation that is kept when renderings are put together and that holds between each name and
the changed name. -/
structure NamesRelated
    (related : Rendering → Rendering → Prop)
    (names : Renaming) : Prop
    extends Rendering.Congruence related where
  identifiers :
    ∀ name,
      related (.of [.identifier name]) (.of [.identifier (names.apply name)])

/-- A relation that, besides, holds between each operand and the changed operand and between each
pattern and the changed pattern. -/
structure PartsRelated
    (related : Rendering → Rendering → Prop)
    (names : Renaming)
    (operand : Operand → Operand)
    (pattern : String → String) : Prop
    extends NamesRelated related names where
  operands :
    ∀ clause part,
      related (part.rendering clause) ((operand part).rendering clause)
  patterns :
    ∀ text, related (.of [.text text]) (.of [.text (pattern text)])

/-! ### References -/

section

variable {related : Rendering → Rendering → Prop}
variable {names : Renaming}
variable (parts : NamesRelated related names)

include parts

/-- A name behind a qualifier; an empty qualifier stays empty when names are changed. -/
theorem related_qualified
    (qualifier : Option String)
    (name : String) :
    related (.of (qualified qualifier name))
      (.of (qualified (qualifier.map names.apply) (names.apply name))) := by
  cases qualifier with
  | none =>
      exact parts.identifiers name
  | some qualifier =>
      by_cases empty : qualifier = ""
      · have changedEmpty : names.apply qualifier = "" :=
          names.eq_empty_iff.mpr empty
        rw [Option.map_some, changedEmpty, empty]
        exact parts.identifiers name
      · have changedNonempty : names.apply qualifier ≠ "" :=
          fun isEmpty => empty (names.eq_empty_iff.mp isEmpty)
        rw [Option.map_some, qualified_of_ne_empty empty,
          qualified_of_ne_empty changedNonempty]
        exact parts.divided "." (parts.identifiers qualifier)
          (parts.identifiers name)

/-- A new name; an empty one stays empty when names are changed. -/
theorem related_aliased
    (name : Option String) :
    related (.of (aliased name)) (.of (aliased (name.map names.apply))) := by
  cases name with
  | none =>
      exact parts.fixed _ rfl
  | some name =>
      by_cases empty : name = ""
      · have changedEmpty : names.apply name = "" :=
          names.eq_empty_iff.mpr empty
        rw [Option.map_some, changedEmpty, empty]
        exact parts.fixed _ rfl
      · have changedNonempty : names.apply name ≠ "" :=
          fun isEmpty => empty (names.eq_empty_iff.mp isEmpty)
        rw [Option.map_some, aliased_of_ne_empty empty,
          aliased_of_ne_empty changedNonempty]
        exact parts.append (parts.bare " AS ") (parts.identifiers name)

/-- A reference to a renamed table is related to the one before. -/
theorem related_tableReference
    (schema : Option String)
    (table : String)
    (name : Option String) :
    related (.of (tableReference schema table name))
      (.of
        (tableReference (schema.map names.apply) (names.apply table)
          (name.map names.apply))) :=
  parts.append (related_qualified parts schema table)
    (related_aliased parts name)

end

section

variable {related : Rendering → Rendering → Prop}
variable {names : Renaming}
variable {operand : Operand → Operand}
variable {pattern : String → String}
variable (parts : PartsRelated related names operand pattern)

include parts

/-! ### Filters -/

/-- An operand that may be missing is related to its change. -/
theorem related_renderOperand
    (clause : Clause)
    (part : Option Operand) :
    related (renderOperand clause part)
      (renderOperand clause (part.map operand)) := by
  cases part with
  | none =>
      exact parts.fail _ _
  | some part =>
      exact parts.operands clause part

/-- The negations of related conditions are related. -/
theorem related_renderNegation
    (negate : Bool)
    {condition changedCondition : Rendering}
    (conditionRelated : related condition changedCondition) :
    related (renderNegation negate condition)
      (renderNegation negate changedCondition) := by
  cases negate with
  | true =>
      exact parts.between _ _ conditionRelated
  | false =>
      exact conditionRelated

/-- A filter and the filter with changed operands and patterns are related. -/
theorem Filter.related_rendering
    (clause : Clause)
    (filter : Filter) :
    related (filter.rendering clause)
      ((filter.mapParts operand pattern).rendering clause) := by
  induction filter with
  | comparison left operator right negate =>
      apply related_renderNegation parts
      cases operator with
      | none =>
          exact parts.fail _ _
      | some operator =>
          exact parts.divided _ (related_renderOperand parts clause left)
            (related_renderOperand parts clause right)
  | childless operator negate =>
      apply related_renderNegation parts
      cases operator <;> exact parts.fail _ _
  | logical operator children negate inductionHypothesis =>
      apply related_renderNegation parts
      cases operator with
      | none =>
          exact parts.fail _ _
      | some operator =>
          cases children with
          | nil =>
              exact parts.fail _ _
          | cons child children =>
              rw [condition_logical]
              simp only [mapParts, mapChildren]
              rw [condition_logical, mapChildren_eq_map, ← map_cons]
              apply parts.between
              apply parts.joined_map
              intro filter member
              exact parts.between _ _ (inductionHypothesis filter member)
  | membership column values negate =>
      apply related_renderNegation parts
      have columnRelated := related_renderOperand parts clause column
      cases values with
      | none =>
          exact parts.append columnRelated (parts.fail _ _)
      | some values =>
          cases values with
          | nil =>
              exact parts.append columnRelated (parts.fail _ _)
          | cons value values =>
              apply parts.append columnRelated
              apply parts.between
              apply parts.joined_map
              intro part _
              exact parts.operands clause part
  | between column low high negate =>
      apply related_renderNegation parts
      exact parts.divided _
        (parts.divided _ (related_renderOperand parts clause column)
          (related_renderOperand parts clause low))
        (related_renderOperand parts clause high)
  | isNull column negate =>
      apply related_renderNegation parts
      exact parts.append (related_renderOperand parts clause column)
        (parts.bare _)
  | isNotNull column negate =>
      apply related_renderNegation parts
      exact parts.append (related_renderOperand parts clause column)
        (parts.bare _)
  | like column text negate =>
      apply related_renderNegation parts
      have columnRelated := related_renderOperand parts clause column
      cases text with
      | none =>
          exact parts.append columnRelated (parts.fail _ _)
      | some text =>
          exact parts.divided _ columnRelated (parts.patterns text)

/-- Filters that are changed are related to what they were. -/
theorem related_renderFilters
    (clause : Clause)
    (filters : List Filter) :
    related (renderFilters clause filters)
      (renderFilters clause (filters.map (Filter.mapParts operand pattern))) := by
  cases filters with
  | nil =>
      exact parts.fixed _ rfl
  | cons filter rest =>
      cases rest with
      | nil =>
          exact filter.related_rendering parts clause
      | cons next rest =>
          apply parts.joined_map
          intro filter _
          exact parts.between _ _ (filter.related_rendering parts clause)

/-! ### Clauses -/

/-- A renamed item is related to the one before. -/
theorem SelectColumn.related_rendering
    (item : SelectColumn) :
    related item.rendering (item.rename names).rendering := by
  obtain ⟨table, column, expression, label, aggregate⟩ := item
  cases expression with
  | none =>
      cases column with
      | none =>
          exact parts.fail _ _
      | some column =>
          have labels :
              (label.map names.apply).filter (· ≠ names.apply column) =
                (label.filter (· ≠ column)).map names.apply := by
            cases label with
            | none =>
                rfl
            | some label =>
                by_cases same : label = column
                · simp [Option.filter, same]
                · have different : names.apply label ≠ names.apply column :=
                    fun equal => same (names.injective equal)
                  simp [Option.filter, same, different]
          simp only [rendering, rename, Option.map_some]
          rw [labels]
          exact parts.append (related_qualified parts.toNamesRelated table column)
            (related_aliased parts.toNamesRelated _)
  | some expression =>
      cases column with
      | none =>
          simp only [rendering, rename, Option.map_none]
          split
          · exact parts.fail _ _
          · exact parts.append (parts.fixed [.raw expression] rfl)
              (related_aliased parts.toNamesRelated label)
      | some column =>
          exact parts.fail _ _

/-- A selection of renamed items is related to the one before. -/
theorem related_renderSelect
    (distinct : Bool)
    (columns : List SelectColumn) :
    related (renderSelect distinct columns)
      (renderSelect distinct (columns.map (SelectColumn.rename names))) := by
  cases columns with
  | nil =>
      exact parts.fail _ _
  | cons item items =>
      apply parts.append (parts.bare _)
      apply parts.joined_map
      intro item _
      exact item.related_rendering parts

/-- A renamed source is related to the one before. -/
theorem TableRef.related_rendering
    (source : TableRef) :
    related source.rendering (source.rename names).rendering := by
  unfold rendering rename
  dsimp only
  rw [names.isEmpty_apply]
  split
  · exact parts.fail _ _
  · exact parts.append (parts.bare _) (related_tableReference parts.toNamesRelated _ _ _)

/-- A changed join is related to the one before. -/
theorem Join.related_rendering
    (dialect : Dialect)
    (join : Join) :
    related (join.rendering dialect)
      ((join.mapParts names operand pattern).rendering dialect) := by
  have table :
      related
        (Rendering.bare (join.kind.keyword ++ " ") ++
          .of (tableReference join.schema join.table join.label))
        (Rendering.bare (join.kind.keyword ++ " ") ++
          .of
            (tableReference (join.schema.map names.apply)
              (names.apply join.table) (join.label.map names.apply))) :=
    parts.append (parts.bare _) (related_tableReference parts.toNamesRelated _ _ _)
  unfold rendering mapParts
  dsimp only
  rw [names.isEmpty_apply]
  split
  · exact parts.fail _ _
  · split
    · exact parts.fail _ _
    · split
      · exact table
      · cases join.condition with
        | none =>
            exact parts.fail _ _
        | some condition =>
            exact parts.divided _ table
              (condition.related_rendering parts .join)

/-- A grouping by renamed columns is related to the one before. -/
theorem related_renderGroupBy
    (columns : List ColumnRef) :
    related (renderGroupBy columns)
      (renderGroupBy (columns.map (ColumnRef.rename names))) := by
  apply parts.append (parts.bare _)
  apply parts.joined_map
  intro item _
  exact related_qualified parts.toNamesRelated item.table item.column

/-- An ordering by renamed items is related to the one before. -/
theorem related_renderOrderBy
    (items : List OrderItem) :
    related (renderOrderBy items)
      (renderOrderBy (items.map (OrderItem.rename names))) := by
  apply parts.append (parts.bare _)
  apply parts.joined_map
  intro item _
  exact parts.append (related_qualified parts.toNamesRelated item.table item.column)
    (parts.bare _)

/-- Bounds are not changed. -/
theorem related_renderBounds
    (dialect : Dialect)
    (limit offset : Option Int) :
    related (renderBounds dialect limit offset)
      (renderBounds dialect limit offset) := by
  have checked
      (clause : Clause)
      (negative : Int → QueryFault)
      (bound : Option Int) :
      related (checkSign clause negative bound)
        (checkSign clause negative bound) := by
    unfold checkSign
    split
    · exact parts.fixed _ rfl
    · split
      · exact parts.fixed _ rfl
      · split
        · exact parts.fail _ _
        · exact parts.fail _ _
  have written :
      related (writeBounds dialect limit offset)
        (writeBounds dialect limit offset) := by
    unfold writeBounds
    split
    · exact parts.fixed _ (name?_limitClause dialect limit offset)
    · exact parts.fail _ _
  exact parts.append (parts.append (checked _ _ limit) (checked _ _ offset))
    written

/-! ### Queries -/

omit parts in
/-- A clause is absent after the change just if it was before. -/
theorem related_clauseUnless
    (absent : Bool)
    {clause changedClause : Rendering}
    (clauseRelated : related clause changedClause) :
    Forall₂ related (clauseUnless absent clause)
      (clauseUnless absent changedClause) := by
  cases absent with
  | true =>
      exact .nil
  | false =>
      exact .cons clauseRelated .nil

/-- A query and the changed query are related. -/
theorem VisualQuery.related_rendering
    (dialect : Dialect)
    (query : VisualQuery) :
    related (query.rendering dialect)
      ((query.mapParts names operand pattern).rendering dialect) := by
  have heads :
      Forall₂ related
        [renderSelect query.distinct query.columns, query.source.rendering]
        [renderSelect query.distinct
            (query.columns.map (SelectColumn.rename names)),
          (query.source.rename names).rendering] :=
    .cons (related_renderSelect parts _ _)
      (.cons (query.source.related_rendering parts) .nil)
  have joins :
      Forall₂ related (query.joins.map (Join.rendering dialect))
        ((query.joins.map (Join.mapParts names operand pattern)).map
          (Join.rendering dialect)) := by
    rw [map_map, forall₂_map_left_iff, forall₂_map_right_iff, forall₂_same]
    exact fun join _ => join.related_rendering parts dialect
  have filterClause
      (clause : Clause)
      (keyword : String)
      (filters : List Filter) :
      Forall₂ related
        (clauseUnless filters.isEmpty
          (.bare keyword ++ renderFilters clause filters))
        (clauseUnless (filters.map (Filter.mapParts operand pattern)).isEmpty
          (.bare keyword ++ renderFilters clause
            (filters.map (Filter.mapParts operand pattern)))) := by
    rw [isEmpty_map]
    exact related_clauseUnless _
      (parts.append (parts.bare _) (related_renderFilters parts clause filters))
  have groups :
      Forall₂ related
        (clauseUnless query.groupBy.isEmpty (renderGroupBy query.groupBy))
        (clauseUnless (query.groupBy.map (ColumnRef.rename names)).isEmpty
          (renderGroupBy (query.groupBy.map (ColumnRef.rename names)))) := by
    rw [isEmpty_map]
    exact related_clauseUnless _ (related_renderGroupBy parts _)
  have orders :
      Forall₂ related
        (clauseUnless query.orderBy.isEmpty (renderOrderBy query.orderBy))
        (clauseUnless (query.orderBy.map (OrderItem.rename names)).isEmpty
          (renderOrderBy (query.orderBy.map (OrderItem.rename names)))) := by
    rw [isEmpty_map]
    exact related_clauseUnless _ (related_renderOrderBy parts _)
  have bounds :
      Forall₂ related (boundsClause dialect query.limit query.offset)
        (boundsClause dialect query.limit query.offset) :=
    related_clauseUnless _ (related_renderBounds parts dialect _ _)
  apply parts.joined "\n"
  exact rel_append (rel_append (rel_append (rel_append (rel_append
    (rel_append heads joins)
    (filterClause .condition "WHERE " query.filters)) groups)
    (filterClause .having "HAVING " query.having)) orders) bounds

end

end QueryGateway
