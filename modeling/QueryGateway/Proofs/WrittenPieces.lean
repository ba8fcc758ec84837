import QueryGateway.Proofs.FilterShape

/-!
# What a rendering that does not fail has written

As long as nothing fails, the clause that is written plays no part, and each
part of a query has pieces of its own.  Here these pieces are said part by part
without clauses and failures, and a rendering that does not fail has written
exactly them (`Filter.rendering_eq_of`, `VisualQuery.rendering_eq_of`).

A part that is missing has no pieces.  What is said of such a part counts for
nothing, because its rendering fails.
-/

namespace QueryGateway

open List Sql

/-! ## Renderings that only write -/

namespace Rendering

/-- Pieces that follow each other are rendered one after the other. -/
theorem of_append
    (first second : List Piece) :
    of first ++ of second = of (first ++ second) := rfl

/-- What encloses pieces stands before and after them. -/
theorem between_of
    (opening closing : String)
    (inner : List Piece) :
    between opening (of inner) closing =
      of (.bare opening :: inner ++ [.bare closing]) := rfl

/-- Joined pieces are rendered as one list. -/
theorem joined_of
    (separator : String)
    (lists : List (List Piece)) :
    joined separator (lists.map of) = of (Piece.joined separator lists) := by
  induction lists with
  | nil =>
      rfl
  | cons pieces rest inductionHypothesis =>
      cases rest with
      | nil =>
          rfl
      | cons next rest =>
          rw [map_cons, map_cons, joined_cons_cons, ← map_cons,
            inductionHypothesis, Piece.joined_cons_cons]
          simp only [bare, of_append, List.append_assoc,
            List.singleton_append]

/-- Parts that are written with a separator between them do not fail, and their pieces are put
together as they are. -/
theorem joined_eq_of
    {separator : String}
    {render : α → Rendering}
    {pieces : α → List Piece}
    {parts : List α}
    (written :
      ∀ part ∈ parts,
        (render part).failure = none → render part = of (pieces part))
    (succeeds : (joined separator (parts.map render)).failure = none) :
    joined separator (parts.map render) =
      of (Piece.joined separator (parts.map pieces)) := by
  rw [failure_joined_map, findSome?_eq_none_iff] at succeeds
  have allWritten : parts.map render = (parts.map pieces).map of := by
    rw [map_map]
    exact map_congr_left fun part member =>
      written part member (succeeds part member)
  rw [allWritten, joined_of]

end Rendering

/-! ## Operands -/

/-- The pieces of an operand. -/
def Operand.pieces : Operand → List Piece
  | .column table name => columnReference table (name.getD "")
  | .literal value => (Sql.literal value).toOption.getD []
  | .parameter name => [.placeholder (name.getD "")]

/-- The pieces of an operand that may be missing. -/
def operandPieces : Option Operand → List Piece
  | none => []
  | some operand => operand.pieces

/-- A literal that is written consists of the pieces of its value. -/
theorem Rendering.ofLiteral_eq_of
    {clause : Clause}
    {value : Value}
    (succeeds : (ofLiteral clause value).failure = none) :
    ∃ pieces, literal value = .ok pieces ∧
      ofLiteral clause value = of pieces := by
  unfold ofLiteral at succeeds ⊢
  cases outcome : literal value with
  | ok pieces =>
      exact ⟨pieces, rfl, rfl⟩
  | error cause =>
      rw [outcome] at succeeds
      cases cause <;> simp [fault, fail] at succeeds

/-- An operand that is written names a column, is a constant with a literal, or names a
parameter. -/
theorem Operand.written_cases
    {clause : Clause}
    {operand : Operand}
    (succeeds : (operand.rendering clause).failure = none) :
    (∃ table name, operand = .column table (some name)) ∨
    (∃ value pieces,
      operand = .literal value ∧ Sql.literal value = .ok pieces) ∨
    (∃ name, operand = .parameter (some name)) := by
  rcases operand.rendering_cases clause with
    ⟨error, refused⟩ | ⟨table, name, isColumn, _⟩ | ⟨value, isLiteral, written⟩ |
      ⟨name, isParameter, _⟩
  · rw [refused] at succeeds
    simp [Rendering.fail] at succeeds
  · exact Or.inl ⟨table, name, isColumn⟩
  · rw [written] at succeeds
    obtain ⟨pieces, isOk, _⟩ := Rendering.ofLiteral_eq_of succeeds
    exact Or.inr (Or.inl ⟨value, pieces, isLiteral, isOk⟩)
  · exact Or.inr (Or.inr ⟨name, isParameter⟩)

/-- An operand that is rendered is its pieces. -/
theorem Operand.rendering_eq_of
    {clause : Clause}
    {operand : Operand}
    (succeeds : (operand.rendering clause).failure = none) :
    operand.rendering clause = .of operand.pieces := by
  rcases operand.rendering_cases clause with
    ⟨error, refused⟩ | ⟨table, name, rfl, written⟩ | ⟨value, rfl, written⟩ |
      ⟨name, rfl, _, written⟩
  · rw [refused] at succeeds
    simp [Rendering.fail] at succeeds
  · exact written
  · rw [written] at succeeds ⊢
    obtain ⟨pieces, isOk, isWritten⟩ := Rendering.ofLiteral_eq_of succeeds
    rw [isWritten, Operand.pieces, isOk]
    rfl
  · exact written

/-- An operand that may be missing is its pieces once it is rendered. -/
theorem renderOperand_eq_of
    {clause : Clause}
    {operand : Option Operand}
    (succeeds : (renderOperand clause operand).failure = none) :
    renderOperand clause operand = .of (operandPieces operand) := by
  obtain ⟨part, rfl, partSucceeds⟩ := exists_of_renderOperand succeeds
  exact Operand.rendering_eq_of partSucceeds

/-! ## Filters -/

/-- Pieces that are turned into their opposite if asked for. -/
def negatedPieces (negate : Bool) (pieces : List Piece) : List Piece :=
  if negate then .bare "NOT (" :: pieces ++ [.bare ")"] else pieces

/-- Pieces between parentheses. -/
def parenthesised (pieces : List Piece) : List Piece :=
  .bare "(" :: pieces ++ [.bare ")"]

namespace Filter

mutual

/-- The pieces of a filter before it is turned into its opposite. -/
def conditionPieces : Filter → List Piece
  | .comparison left operator right _ =>
      operandPieces left
        ++ .bare (" " ++ operator.elim "" ComparisonOp.symbol ++ " ")
          :: operandPieces right
  | .logical _ none _ => []
  | .logical operator (some children) _ =>
      parenthesised
        (Piece.joined (" " ++ operator.elim "" LogicalOp.name ++ " ")
          (childPieces children))
  | .membership column values _ =>
      operandPieces column
        ++ .bare " IN ("
          :: Piece.joined itemSeparator ((values.getD []).map Operand.pieces)
        ++ [.bare ")"]
  | .between column low high _ =>
      operandPieces column
        ++ .bare " BETWEEN " :: operandPieces low
        ++ .bare " AND " :: operandPieces high
  | .isNull column _ => operandPieces column ++ [.bare " IS NULL"]
  | .isNotNull column _ => operandPieces column ++ [.bare " IS NOT NULL"]
  | .like column pattern _ =>
      operandPieces column ++ [.bare " LIKE ", .text (pattern.getD "")]

/-- The pieces of the children of a connective, each between parentheses. -/
def childPieces : List Filter → List (List Piece)
  | [] => []
  | child :: rest =>
      parenthesised (negatedPieces child.negate child.conditionPieces)
        :: childPieces rest

end

/-- The pieces of a filter. -/
def pieces (filter : Filter) : List Piece :=
  negatedPieces filter.negate filter.conditionPieces

/-- Each child of a connective stands in parentheses. -/
theorem childPieces_eq_map
    (children : List Filter) :
    childPieces children =
      children.map fun child => parenthesised child.pieces := by
  induction children with
  | nil =>
      rfl
  | cons child rest inductionHypothesis =>
      simp [childPieces, inductionHypothesis, pieces]

end Filter

/-- A negation stands before the pieces it negates. -/
theorem renderNegation_of
    (negate : Bool)
    (pieces : List Piece) :
    renderNegation negate (.of pieces) = .of (negatedPieces negate pieces) := by
  cases negate <;> rfl

/-- Filters that are written with a separator between them have their pieces between
parentheses. -/
theorem joined_filters_eq_of
    {clause : Clause}
    {separator : String}
    {filters : List Filter}
    (written :
      ∀ filter ∈ filters, (filter.rendering clause).failure = none →
        filter.rendering clause = .of filter.pieces)
    (succeeds :
      (Rendering.joined separator
        (filters.map fun filter =>
          .between "(" (filter.rendering clause) ")")).failure = none) :
    Rendering.joined separator
        (filters.map fun filter => .between "(" (filter.rendering clause) ")") =
      .of (Piece.joined separator
        (filters.map fun filter => parenthesised filter.pieces)) := by
  apply Rendering.joined_eq_of _ succeeds
  intro filter member filterSucceeds
  rw [Rendering.failure_between] at filterSucceeds
  rw [written filter member filterSucceeds]
  rfl

/-- A predicate whose operands are written consists of its pieces. -/
theorem Predicate.condition_eq_of
    {clause : Clause}
    {column : Operand}
    (predicate : Predicate)
    (negate : Bool)
    (columnWritten : (column.rendering clause).failure = none)
    (argumentsWritten :
      ∀ operand ∈ predicate.operands,
        (operand.rendering clause).failure = none) :
    (predicate.filter column negate).condition clause =
      .of (predicate.filter column negate).conditionPieces := by
  have operand
      {part : Operand}
      (written : (part.rendering clause).failure = none) :
      renderOperand clause (some part) = .of (operandPieces (some part)) :=
    renderOperand_eq_of written
  cases predicate with
  | compares operator right =>
      rw [filter, Filter.condition, Filter.conditionPieces,
        operand columnWritten, operand (argumentsWritten right mem_cons_self)]
      simp [Rendering.bare, Rendering.of_append]
  | isAmong value values =>
      have joined :
          Rendering.joined itemSeparator
              ((value :: values).map (Operand.rendering clause)) =
            .of (Piece.joined itemSeparator
              ((value :: values).map Operand.pieces)) := by
        apply Rendering.joined_eq_of fun part _ => Operand.rendering_eq_of
        rw [Rendering.failure_joined_map, findSome?_eq_none_iff]
        exact argumentsWritten
      rw [filter, Filter.condition_membership, Filter.conditionPieces,
        operand columnWritten, joined]
      simp [Rendering.between_of, Rendering.of_append]
  | isBetween low high =>
      have lowWritten := argumentsWritten low mem_cons_self
      have highWritten :=
        argumentsWritten high (mem_cons_of_mem low mem_cons_self)
      rw [filter, Filter.condition, Filter.conditionPieces,
        operand columnWritten, operand lowWritten, operand highWritten]
      simp [Rendering.bare, Rendering.of_append]
  | isNull =>
      rw [filter, Filter.condition, operand columnWritten]
      rfl
  | isNotNull =>
      rw [filter, Filter.condition, operand columnWritten]
      rfl
  | isLike pattern =>
      rw [filter, Filter.condition, Filter.conditionPieces,
        operand columnWritten]
      simp [Rendering.bare, Rendering.of_append]

/-- A filter that is written consists of its pieces. -/
theorem Filter.rendering_eq_of
    {clause : Clause}
    (filter : Filter)
    (succeeds : (filter.rendering clause).failure = none) :
    filter.rendering clause = .of filter.pieces := by
  have complete := isComplete_of_rendering succeeds
  induction complete with
  | asks predicate negate columnWritten argumentsWritten =>
      rw [rendering, pieces,
        predicate.condition_eq_of negate columnWritten argumentsWritten,
        renderNegation_of]
  | @connects operator child children negate _ inductionHypothesis =>
      rw [rendering, failure_renderNegation, condition_logical,
        Rendering.failure_between] at succeeds
      rw [rendering, pieces, condition_logical,
        joined_filters_eq_of inductionHypothesis succeeds, conditionPieces,
        childPieces_eq_map]
      exact renderNegation_of negate _

/-- The pieces of several filters that all have to hold. -/
def filtersPieces : List Filter → List Piece
  | [filter] => filter.pieces
  | filters =>
      Piece.joined " AND " (filters.map fun filter => parenthesised filter.pieces)

/-- Filters that are rendered are their pieces, joined. -/
theorem renderFilters_eq_of
    {clause : Clause}
    {filters : List Filter}
    (succeeds : (renderFilters clause filters).failure = none) :
    renderFilters clause filters = .of (filtersPieces filters) := by
  unfold renderFilters at succeeds ⊢
  split at succeeds
  · rename_i filter
    exact filter.rendering_eq_of succeeds
  · rename_i notSingle
    rw [joined_filters_eq_of (fun filter _ => filter.rendering_eq_of) succeeds,
      filtersPieces]
    exact notSingle

/-- Filters that are rendered together are rendered each. -/
theorem failure_of_renderFilters
    {clause : Clause}
    {filters : List Filter}
    (succeeds : (renderFilters clause filters).failure = none)
    {filter : Filter}
    (member : filter ∈ filters) :
    (filter.rendering clause).failure = none := by
  unfold renderFilters at succeeds
  split at succeeds
  · rw [mem_singleton.mp member]
    exact succeeds
  · rw [Rendering.failure_joined_map, findSome?_eq_none_iff] at succeeds
    simpa using succeeds filter member

/-! ## Clauses -/

/-- The pieces of a selected item. -/
def SelectColumn.pieces (item : SelectColumn) : List Piece :=
  match item.expression with
  | some expression => .raw expression :: aliased item.label
  | none =>
      columnReference item.table (item.column.getD "")
        ++ aliased (item.label.filter (· ≠ item.column.getD ""))

/-- The pieces of the clause of selected items. -/
def selectPieces (distinct : Bool) (columns : List SelectColumn) : List Piece :=
  .bare (if distinct then "SELECT DISTINCT " else "SELECT ")
    :: Piece.joined itemSeparator (columns.map SelectColumn.pieces)

/-- The pieces of the clause of the source table. -/
def TableRef.pieces (source : TableRef) : List Piece :=
  .bare "FROM " :: tableReference source.schema source.table source.label

/-- The pieces of the condition of a join, if one is written. -/
def Join.conditionPieces (join : Join) : List Piece :=
  match join.writtenCondition? with
  | none => []
  | some condition => .bare " ON " :: condition.pieces

/-- The pieces of the clause of a join. -/
def Join.pieces (join : Join) : List Piece :=
  .bare (join.kind.keyword ++ " ")
    :: tableReference join.schema join.table join.label
    ++ join.conditionPieces

/-- The pieces of the clause of the columns to group by. -/
def groupByPieces (columns : List ColumnRef) : List Piece :=
  .bare "GROUP BY "
    :: Piece.joined itemSeparator
      (columns.map fun item => columnReference item.table item.column)

/-- The pieces of a column to order by. -/
def OrderItem.pieces (item : OrderItem) : List Piece :=
  columnReference item.table item.column
    ++ [.bare (" " ++ item.direction.name)]

/-- The pieces of the clause of the columns to order by. -/
def orderByPieces (items : List OrderItem) : List Piece :=
  .bare "ORDER BY " :: Piece.joined itemSeparator (items.map OrderItem.pieces)

/-- A selected item that is rendered is its pieces. -/
theorem SelectColumn.rendering_eq_of
    {item : SelectColumn}
    (succeeds : item.rendering.failure = none) :
    item.rendering = .of item.pieces := by
  unfold SelectColumn.rendering at succeeds ⊢
  unfold SelectColumn.pieces
  cases expression : item.expression with
  | none =>
      cases column : item.column with
      | none =>
          simp [expression, column] at succeeds
      | some column =>
          rfl
  | some written =>
      cases column : item.column with
      | none =>
          simp only [expression, column] at succeeds
          dsimp only
          split
          · rename_i blank
            simp [blank] at succeeds
          · rfl
      | some column =>
          simp [expression, column] at succeeds

/-- A selection that is rendered is its pieces. -/
theorem renderSelect_eq_of
    {distinct : Bool}
    {columns : List SelectColumn}
    (succeeds : (renderSelect distinct columns).failure = none) :
    renderSelect distinct columns = .of (selectPieces distinct columns) := by
  unfold renderSelect at succeeds ⊢
  split at succeeds
  · simp at succeeds
  · rename_i nonempty
    rw [Rendering.failure_append, Option.or_eq_none_iff] at succeeds
    rw [if_neg nonempty, Rendering.joined_eq_of
      (fun item _ => SelectColumn.rendering_eq_of) succeeds.2]
    rfl

/-- A source that is rendered is its pieces. -/
theorem TableRef.rendering_eq_of
    {source : TableRef}
    (succeeds : source.rendering.failure = none) :
    source.rendering = .of source.pieces := by
  unfold TableRef.rendering at succeeds ⊢
  split at succeeds
  · simp at succeeds
  · rename_i nonempty
    rw [if_neg nonempty]
    rfl

/-- A join that is rendered is its pieces. -/
theorem Join.rendering_eq_of
    {dialect : Dialect}
    {join : Join}
    (succeeds : (join.rendering dialect).failure = none) :
    join.rendering dialect = .of join.pieces := by
  rcases join.rendering_cases dialect with
    ⟨error, refused⟩ | ⟨noCondition, written⟩ |
      ⟨condition, isCondition, written⟩
  · rw [refused] at succeeds
    simp [Rendering.fail] at succeeds
  · rw [written, pieces, conditionPieces, noCondition, append_nil]
    rfl
  · rw [written, Rendering.failure_append, Option.or_eq_none_iff] at succeeds
    rw [written, condition.rendering_eq_of succeeds.2, pieces,
      conditionPieces, isCondition]
    simp [Rendering.bare, Rendering.of_append]

/-- The condition of a join that is rendered is rendered itself. -/
theorem failure_of_writtenCondition
    {dialect : Dialect}
    {join : Join}
    (succeeds : (join.rendering dialect).failure = none)
    {filter : Filter}
    (written : join.writtenCondition? = some filter) :
    (filter.rendering .join).failure = none := by
  rcases join.rendering_cases dialect with
    ⟨error, refused⟩ | ⟨noCondition, _⟩ | ⟨condition, isCondition, rendered⟩
  · rw [refused] at succeeds
    cases succeeds
  · rw [noCondition] at written
    cases written
  · rw [rendered, Rendering.failure_append, Option.or_eq_none_iff] at succeeds
    rw [isCondition, Option.some.injEq] at written
    exact written ▸ succeeds.2

/-- A grouping is always its pieces. -/
theorem renderGroupBy_eq_of
    (columns : List ColumnRef) :
    renderGroupBy columns = .of (groupByPieces columns) := by
  have items :
      (columns.map fun item =>
          Rendering.of (columnReference item.table item.column)) =
        (columns.map fun item =>
          columnReference item.table item.column).map .of := by
    simp
  rw [renderGroupBy, items, Rendering.joined_of]
  rfl

/-- An ordering is always its pieces. -/
theorem renderOrderBy_eq_of
    (items : List OrderItem) :
    renderOrderBy items = .of (orderByPieces items) := by
  have written :
      items.map OrderItem.rendering =
        (items.map OrderItem.pieces).map Rendering.of := by
    rw [map_map]
    rfl
  rw [renderOrderBy, written, Rendering.joined_of]
  rfl

/-- A bound that is not refused is passed over in silence. -/
theorem checkSign_eq_empty
    {clause : Clause}
    {negative : Int → QueryFault}
    {bound : Option Int}
    (succeeds : (checkSign clause negative bound).failure = none) :
    checkSign clause negative bound = .empty := by
  unfold checkSign at succeeds ⊢
  split at succeeds
  · rfl
  · split at succeeds
    · rename_i positive
      simp [positive]
    · split at succeeds <;> simp [Rendering.fail] at succeeds

/-- A bound that is rendered is not negative. -/
theorem checkSign_nonneg
    {clause : Clause}
    {negative : Int → QueryFault}
    {bound : Int}
    (succeeds : (checkSign clause negative (some bound)).failure = none) :
    0 ≤ bound := by
  rcases Decidable.em (0 ≤ bound) with nonneg | isNegative
  · exact nonneg
  · unfold checkSign at succeeds
    dsimp only at succeeds
    rw [if_neg isNegative] at succeeds
    split at succeeds <;> cases succeeds

/-- Bounds that are rendered are the limit clause of their dialect. -/
theorem renderBounds_eq_of
    {dialect : Dialect}
    {limit offset : Option Int}
    (succeeds : (renderBounds dialect limit offset).failure = none) :
    renderBounds dialect limit offset =
      .of (limitClause dialect limit offset) := by
  unfold renderBounds at succeeds ⊢
  simp only [Rendering.failure_append, Option.or_eq_none_iff] at succeeds
  obtain ⟨⟨limitSucceeds, offsetSucceeds⟩, written⟩ := succeeds
  rw [checkSign_eq_empty limitSucceeds, checkSign_eq_empty offsetSucceeds,
    Rendering.empty_append, Rendering.empty_append]
  unfold writeBounds at written ⊢
  split at written
  · rename_i short
    rw [if_pos short]
  · simp [Rendering.fail] at written

/-- The limit that counts: an engine that takes no offset on its own is given the greatest limit with
it. -/
def effectiveLimit (dialect : Dialect) (limit offset : Option Int) : Option Int :=
  if limit.isNone && (offset.filter (· ≠ 0)).isSome &&
      !dialect.supportsStandaloneOffset then
    some unboundedLimit
  else
    limit

/-- The offset that counts: zero is none. -/
def effectiveOffset (offset : Option Int) : Option Int :=
  offset.filter (· ≠ 0)

/-- The clause of the bounds holds the limit and the offset that count. -/
theorem limitClause_eq
    (dialect : Dialect)
    (limit offset : Option Int) :
    limitClause dialect limit offset =
      Piece.joined " "
        (((effectiveLimit dialect limit offset).map fun bound =>
            [Piece.bare ("LIMIT " ++ Numeral.ofInt bound)]).toList
          ++ ((effectiveOffset offset).map fun bound =>
            [Piece.bare ("OFFSET " ++ Numeral.ofInt bound)]).toList) := by
  rw [limitClause, writtenLimitClause, effectiveLimit, effectiveOffset]
  cases limit with
  | some limit =>
      cases offset.filter (· ≠ 0) <;> rfl
  | none =>
      cases offset.filter (· ≠ 0) with
      | none => rfl
      | some offset => cases dialect <;> rfl

/-! ## Queries -/

/-- The pieces of a clause that is written only if there is something to write it for. -/
def piecesUnless (absent : Bool) (pieces : List Piece) : List (List Piece) :=
  if absent then [] else [pieces]

/-- The pieces of the clauses of a query before the one that bounds the result. -/
def VisualQuery.leadingPieces (query : VisualQuery) : List (List Piece) :=
  [selectPieces query.distinct query.columns, query.source.pieces]
    ++ query.joins.map Join.pieces
    ++ piecesUnless query.filters.isEmpty
        (.bare "WHERE " :: filtersPieces query.filters)
    ++ piecesUnless query.groupBy.isEmpty (groupByPieces query.groupBy)
    ++ piecesUnless query.having.isEmpty
        (.bare "HAVING " :: filtersPieces query.having)
    ++ piecesUnless query.orderBy.isEmpty (orderByPieces query.orderBy)

/-- The pieces of the clauses of a query. -/
def VisualQuery.clausePieces
    (dialect : Dialect)
    (query : VisualQuery) :
    List (List Piece) :=
  query.leadingPieces
    ++ piecesUnless (limitClause dialect query.limit query.offset).isEmpty
        (limitClause dialect query.limit query.offset)

/-- A clause that may be absent is its pieces, or nothing. -/
theorem clauseUnless_eq_of
    (absent : Bool)
    {clause : Rendering}
    {pieces : List Piece}
    (written : clause.failure = none → clause = .of pieces)
    (succeeds : ∀ rendering ∈ clauseUnless absent clause, rendering.failure = none) :
    clauseUnless absent clause = (piecesUnless absent pieces).map .of := by
  cases absent with
  | true =>
      rfl
  | false =>
      have isWritten := written (succeeds clause (by simp [clauseUnless]))
      simp [clauseUnless, piecesUnless, isWritten]

/-- The clause of the bounds is absent where there is nothing to bound. -/
theorem boundsClause_eq_of
    {dialect : Dialect}
    {limit offset : Option Int}
    (succeeds :
      ∀ rendering ∈ boundsClause dialect limit offset, rendering.failure = none) :
    boundsClause dialect limit offset =
      (piecesUnless (limitClause dialect limit offset).isEmpty
        (limitClause dialect limit offset)).map .of := by
  have boundsSucceed : (renderBounds dialect limit offset).failure = none := by
    cases absent : (renderBounds dialect limit offset).isEmpty with
    | true =>
        simp only [Rendering.isEmpty, Bool.and_eq_true,
          Option.isNone_iff_eq_none] at absent
        exact absent.2
    | false =>
        exact succeeds _ (by simp [boundsClause, clauseUnless, absent])
  have written := renderBounds_eq_of boundsSucceed
  have sameAbsence :
      (renderBounds dialect limit offset).isEmpty =
        (limitClause dialect limit offset).isEmpty := by
    simp [written, Rendering.isEmpty, Rendering.of]
  unfold boundsClause at succeeds ⊢
  dsimp only at succeeds ⊢
  rw [sameAbsence] at succeeds ⊢
  exact clauseUnless_eq_of _ renderBounds_eq_of succeeds

/-- The clause of filters that is written only if there is one. -/
theorem filterClause_eq_of
    {clause : Clause}
    {keyword : String}
    {filters : List Filter}
    (succeeds :
      ∀ rendering ∈ clauseUnless filters.isEmpty
          (.bare keyword ++ renderFilters clause filters),
        rendering.failure = none) :
    clauseUnless filters.isEmpty
        (.bare keyword ++ renderFilters clause filters) =
      (piecesUnless filters.isEmpty
        (.bare keyword :: filtersPieces filters)).map .of := by
  apply clauseUnless_eq_of _ _ succeeds
  intro clauseSucceeds
  rw [Rendering.failure_append, Option.or_eq_none_iff] at clauseSucceeds
  rw [renderFilters_eq_of clauseSucceeds.2]
  rfl

/-- A query that is written consists of the pieces of its clauses, each on a line of its own. -/
theorem VisualQuery.rendering_eq_of
    {dialect : Dialect}
    {query : VisualQuery}
    (succeeds : (query.rendering dialect).failure = none) :
    query.rendering dialect =
      .of (Piece.joined "\n" (query.clausePieces dialect)) := by
  rw [rendering, Rendering.failure_joined, findSome?_eq_none_iff] at succeeds
  simp only [clauses, mem_append] at succeeds
  have heads :
      [renderSelect query.distinct query.columns, query.source.rendering] =
        [selectPieces query.distinct query.columns,
          query.source.pieces].map .of := by
    rw [renderSelect_eq_of (succeeds _ (by simp)),
      TableRef.rendering_eq_of (succeeds _ (by simp))]
    rfl
  have joins :
      query.joins.map (Join.rendering dialect) =
        (query.joins.map Join.pieces).map .of := by
    rw [map_map]
    refine map_congr_left fun join member => ?_
    have isJoin :
        join.rendering dialect ∈ query.joins.map (Join.rendering dialect) :=
      mem_map_of_mem member
    exact Join.rendering_eq_of (succeeds _ (by simp [isJoin]))
  have groups :=
    clauseUnless_eq_of query.groupBy.isEmpty
      (fun _ => renderGroupBy_eq_of query.groupBy)
      fun rendering member => succeeds rendering (by simp [member])
  have orders :=
    clauseUnless_eq_of query.orderBy.isEmpty
      (fun _ => renderOrderBy_eq_of query.orderBy)
      fun rendering member => succeeds rendering (by simp [member])
  have all :
      query.clauses dialect = (query.clausePieces dialect).map .of := by
    unfold clauses clausePieces leadingPieces
    simp only [map_append]
    rw [heads, joins, groups, orders,
      filterClause_eq_of fun rendering member =>
        succeeds rendering (by simp [member]),
      filterClause_eq_of fun rendering member =>
        succeeds rendering (by simp [member]),
      boundsClause_eq_of fun rendering member =>
        succeeds rendering (by simp [member])]
  rw [rendering, all, Rendering.joined_of]

end QueryGateway
