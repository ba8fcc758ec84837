import Mathlib.Data.List.Basic
import QueryGateway.Proofs.LiteralPieces
import QueryGateway.Proofs.WrittenPieces

/-!
# What is taken from the pieces of a query

Some pieces of a query come from its constants, its expressions and its bounds;
all others are names, patterns and one of a few keywords.  So whatever is taken
from the pieces of a query, but neither from quoted tokens nor from keywords, is
taken from the operands of its filters, from left to right, and from its bounds.
-/

namespace QueryGateway

open List Sql

/-- The text between the operands of a comparison. -/
def comparisonText (operator : Option ComparisonOp) : String :=
  " " ++ operator.elim "" ComparisonOp.symbol ++ " "

/-- The text between the parts of a connective. -/
def connectiveText (operator : Option LogicalOp) : String :=
  " " ++ operator.elim "" LogicalOp.name ++ " "

/-- The bare texts of a query besides its numbers and truth values. -/
def keywords : List String :=
  ["SELECT ", "SELECT DISTINCT ", "FROM ", " ON ", "WHERE ", "GROUP BY ",
      "HAVING ", "ORDER BY "]
    ++ JoinKind.all.map (fun kind => kind.keyword ++ " ")
    ++ SortDirection.all.map (fun direction => " " ++ direction.name)
    ++ (none :: ComparisonOp.all.map some).map comparisonText
    ++ (none :: LogicalOp.all.map some).map connectiveText
    ++ [" IN (", " BETWEEN ", " AND ", " IS NULL", " IS NOT NULL", " LIKE ",
      "NOT (", "(", ")", itemSeparator, ".", " AS ", " "]

/-- What takes nothing from quoted tokens and from keywords. -/
structure TakesNoKeyword (extract : Piece → Option β) : Prop where
  keyword : ∀ text ∈ keywords, extract (.bare text) = none
  quoted : ∀ kind content, extract (.quoted kind content) = none

theorem TakesNoKeyword.enclosed
    {extract : Piece → Option β}
    (takes : TakesNoKeyword extract)
    {opening closing : String}
    (opens : opening ∈ keywords)
    (closes : closing ∈ keywords)
    {inner : List Piece} :
    (Piece.bare opening :: inner ++ [Piece.bare closing]).filterMap extract =
      inner.filterMap extract := by
  rw [cons_append, filterMap_cons_none (takes.keyword _ opens),
    filterMap_append, filterMap_cons_none (takes.keyword _ closes),
    filterMap_nil, append_nil]

theorem filterMap_operandPieces
    (extract : Piece → Option β)
    (operand : Option Operand) :
    (operandPieces operand).filterMap extract =
      operand.toList.flatMap fun operand =>
        operand.pieces.filterMap extract := by
  cases operand <;> simp [operandPieces]

/-- What is taken from the pieces of a filter is taken from its operands. -/
theorem Filter.filterMap_pieces
    {extract : Piece → Option β}
    (takes : TakesNoKeyword extract)
    (filter : Filter) :
    filter.pieces.filterMap extract =
      filter.operands.flatMap fun operand =>
        operand.pieces.filterMap extract := by
  have fromCondition
      {filter : Filter}
      (condition :
        filter.conditionPieces.filterMap extract =
          filter.operands.flatMap fun operand =>
            operand.pieces.filterMap extract) :
      filter.pieces.filterMap extract =
        filter.operands.flatMap fun operand =>
          operand.pieces.filterMap extract := by
    rw [pieces, negatedPieces]
    split
    · rw [takes.enclosed (by decide) (by decide), condition]
    · exact condition
  induction filter with
  | comparison left operator right negate =>
      have isKeyword :
          " " ++ operator.elim "" ComparisonOp.symbol ++ " " ∈ keywords := by
        cases operator with
        | none => decide
        | some operator => cases operator <;> decide
      apply fromCondition
      rw [conditionPieces, filterMap_append,
        filterMap_cons_none (takes.keyword _ isKeyword), filterMap_operandPieces,
        filterMap_operandPieces, operands, flatMap_append]
  | childless operator negate =>
      exact fromCondition rfl
  | logical operator children negate inductionHypothesis =>
      have isKeyword :
          " " ++ operator.elim "" LogicalOp.name ++ " " ∈ keywords := by
        cases operator with
        | none => decide
        | some operator => cases operator <;> decide
      apply fromCondition
      rw [conditionPieces, parenthesised, takes.enclosed (by decide) (by decide),
        Piece.filterMap_joined (takes.keyword _ isKeyword), childPieces_eq_map,
        operands, childOperands_eq_flatMap, flatMap_map, flatMap_assoc]
      refine flatMap_congr fun child member => ?_
      rw [parenthesised, takes.enclosed (by decide) (by decide),
        inductionHypothesis child member]
  | membership column values negate =>
      apply fromCondition
      rw [conditionPieces, append_assoc, cons_append, filterMap_append,
        ← cons_append, takes.enclosed (by decide) (by decide),
        Piece.filterMap_joined (takes.keyword _ (by decide)),
        filterMap_operandPieces, flatMap_map, operands, flatMap_append]
  | between column low high negate =>
      apply fromCondition
      rw [conditionPieces, filterMap_append, filterMap_append,
        filterMap_cons_none (takes.keyword _ (by decide)),
        filterMap_cons_none (takes.keyword _ (by decide)),
        filterMap_operandPieces, filterMap_operandPieces,
        filterMap_operandPieces, operands, flatMap_append, flatMap_append]
  | isNull column negate =>
      apply fromCondition
      rw [conditionPieces, filterMap_append,
        filterMap_cons_none (takes.keyword _ (by decide)),
        filterMap_operandPieces, operands, filterMap_nil, append_nil]
  | isNotNull column negate =>
      apply fromCondition
      rw [conditionPieces, filterMap_append,
        filterMap_cons_none (takes.keyword _ (by decide)),
        filterMap_operandPieces, operands, filterMap_nil, append_nil]
  | like column pattern negate =>
      apply fromCondition
      rw [conditionPieces, filterMap_append,
        filterMap_cons_none (takes.keyword _ (by decide)),
        filterMap_cons_none (takes.quoted _ _), filterMap_operandPieces, operands,
        filterMap_nil, append_nil]

/-! ## Clauses -/

section

variable {extract : Piece → Option β}

theorem TakesNoKeyword.filterMap_qualified
    (takes : TakesNoKeyword extract)
    (qualifier : Option String)
    (name : String) :
    (qualified qualifier name).filterMap extract = [] := by
  rw [filterMap_eq_nil_iff]
  unfold qualified
  split <;>
    simp [takes.quoted, takes.keyword "." (by decide)]

theorem TakesNoKeyword.filterMap_aliased
    (takes : TakesNoKeyword extract)
    (name : Option String) :
    (aliased name).filterMap extract = [] := by
  rw [filterMap_eq_nil_iff]
  unfold aliased
  split <;>
    simp [takes.quoted, takes.keyword " AS " (by decide)]

theorem SelectColumn.filterMap_pieces
    (takes : TakesNoKeyword extract)
    {item : SelectColumn}
    (noExpression :
      ∀ expression, item.expression = some expression →
        extract (.raw expression) = none) :
    item.pieces.filterMap extract = [] := by
  unfold pieces
  cases written : item.expression with
  | none =>
      simp [columnReference, takes.filterMap_qualified,
        takes.filterMap_aliased]
  | some expression =>
      simp [noExpression expression written, takes.filterMap_aliased]

theorem filterMap_selectPieces
    (takes : TakesNoKeyword extract)
    (distinct : Bool)
    {columns : List SelectColumn}
    (noExpression :
      ∀ item ∈ columns, ∀ expression,
        item.expression = some expression →
          extract (.raw expression) = none) :
    (selectPieces distinct columns).filterMap extract = [] := by
  have isKeyword :
      (if distinct then "SELECT DISTINCT " else "SELECT ") ∈ keywords := by
    cases distinct <;> decide
  rw [selectPieces, filterMap_cons_none (takes.keyword _ isKeyword),
    Piece.filterMap_joined (takes.keyword _ (by decide)), flatMap_map,
    flatMap_eq_nil_iff]
  exact fun item member =>
    SelectColumn.filterMap_pieces takes (noExpression item member)

theorem TableRef.filterMap_pieces
    (takes : TakesNoKeyword extract)
    (source : TableRef) :
    source.pieces.filterMap extract = [] := by
  rw [pieces, filterMap_cons_none (takes.keyword _ (by decide)), tableReference,
    filterMap_append, takes.filterMap_qualified, takes.filterMap_aliased]
  rfl

theorem Join.filterMap_pieces
    (takes : TakesNoKeyword extract)
    (join : Join) :
    join.pieces.filterMap extract =
      join.writtenCondition?.toList.flatMap fun condition =>
        condition.pieces.filterMap extract := by
  have isKeyword : join.kind.keyword ++ " " ∈ keywords := by
    cases join.kind <;> decide
  rw [pieces, conditionPieces, cons_append,
    filterMap_cons_none (takes.keyword _ isKeyword), tableReference,
    filterMap_append, filterMap_append, takes.filterMap_qualified,
    takes.filterMap_aliased]
  cases join.writtenCondition? with
  | none =>
      rfl
  | some condition =>
      simp [takes.keyword " ON " (by decide)]

theorem filterMap_filtersPieces
    (takes : TakesNoKeyword extract)
    (filters : List Filter) :
    (filtersPieces filters).filterMap extract =
      filters.flatMap fun filter => filter.pieces.filterMap extract := by
  unfold filtersPieces
  split
  · simp
  · rw [Piece.filterMap_joined (takes.keyword _ (by decide)), flatMap_map]
    refine flatMap_congr fun filter _ => ?_
    exact takes.enclosed (by decide) (by decide)

theorem filterMap_groupByPieces
    (takes : TakesNoKeyword extract)
    (columns : List ColumnRef) :
    (groupByPieces columns).filterMap extract = [] := by
  rw [groupByPieces, filterMap_cons_none (takes.keyword _ (by decide)),
    Piece.filterMap_joined (takes.keyword _ (by decide)), flatMap_map]
  simp [columnReference, takes.filterMap_qualified]

theorem filterMap_orderByPieces
    (takes : TakesNoKeyword extract)
    (items : List OrderItem) :
    (orderByPieces items).filterMap extract = [] := by
  rw [orderByPieces, filterMap_cons_none (takes.keyword _ (by decide)),
    Piece.filterMap_joined (takes.keyword _ (by decide)), flatMap_map]
  have direction
      (item : OrderItem) :
      extract (.bare (" " ++ item.direction.name)) = none := by
    apply takes.keyword
    cases item.direction <;> decide
  simp [OrderItem.pieces, columnReference, takes.filterMap_qualified,
    direction]

theorem filterMap_limitClause
    (takes : TakesNoKeyword extract)
    (takesNoBound :
      ∀ keyword ∈ ["LIMIT ", "OFFSET "], ∀ bound,
        extract (.bare (keyword ++ Numeral.ofInt bound)) = none)
    (dialect : Dialect)
    (limit offset : Option Int) :
    (limitClause dialect limit offset).filterMap extract = [] := by
  have bound
      {keyword : String}
      (isKeyword : keyword ∈ ["LIMIT ", "OFFSET "])
      (bound : Int) :
      [Piece.bare (keyword ++ Numeral.ofInt bound)].filterMap extract = [] := by
    rw [filterMap_cons_none (takesNoBound keyword isKeyword bound),
      filterMap_nil]
  rw [limitClause_eq, Piece.filterMap_joined (takes.keyword _ (by decide)),
    flatMap_eq_nil_iff]
  intro pieces member
  simp only [mem_append, Option.mem_toList, Option.map_eq_some_iff] at member
  rcases member with ⟨limit, _, rfl⟩ | ⟨offset, _, rfl⟩
  · exact bound (by simp) limit
  · exact bound (by simp) offset

theorem filterMap_piecesUnless
    {absent : Bool}
    {pieces : List Piece}
    (nothing : absent = true → pieces.filterMap extract = []) :
    (piecesUnless absent pieces).flatMap (filterMap extract) =
      pieces.filterMap extract := by
  cases absent with
  | true =>
      rw [nothing rfl]
      rfl
  | false =>
      simp [piecesUnless]

/-- What is taken from the clauses before the bounds is taken from the filters that are written. -/
theorem VisualQuery.filterMap_leadingPieces
    (takes : TakesNoKeyword extract)
    {query : VisualQuery}
    (noExpression :
      ∀ item ∈ query.columns, ∀ expression,
        item.expression = some expression →
          extract (.raw expression) = none) :
    query.leadingPieces.flatMap (filterMap extract) =
      query.writtenFilters.flatMap fun filter =>
        filter.pieces.filterMap extract := by
  have joins :
      (query.joins.map Join.pieces).flatMap (filterMap extract) =
        (query.joins.filterMap Join.writtenCondition?).flatMap fun filter =>
          filter.pieces.filterMap extract := by
    rw [flatMap_map, filterMap_eq_flatMap_toList, flatMap_assoc]
    exact flatMap_congr fun join _ => join.filterMap_pieces takes
  have filters
      {keyword : String}
      (isKeyword : keyword ∈ keywords)
      (filters : List Filter) :
      (piecesUnless filters.isEmpty
          (.bare keyword :: filtersPieces filters)).flatMap
            (filterMap extract) =
        filters.flatMap fun filter => filter.pieces.filterMap extract := by
    have taken :
        (Piece.bare keyword :: filtersPieces filters).filterMap extract =
          filters.flatMap fun filter => filter.pieces.filterMap extract := by
      rw [filterMap_cons_none (takes.keyword _ isKeyword),
        filterMap_filtersPieces takes]
    rw [filterMap_piecesUnless, taken]
    intro absent
    rw [taken, isEmpty_iff.mp absent]
    rfl
  rw [leadingPieces, writtenFilters]
  simp only [flatMap_append, flatMap_cons, flatMap_nil, append_nil]
  rw [filterMap_selectPieces takes query.distinct noExpression,
    TableRef.filterMap_pieces takes, joins, filters (by decide),
    filters (by decide),
    filterMap_piecesUnless fun _ => filterMap_groupByPieces takes _,
    filterMap_piecesUnless fun _ => filterMap_orderByPieces takes _,
    filterMap_groupByPieces takes, filterMap_orderByPieces takes]
  simp only [nil_append, append_nil]

end

end QueryGateway
