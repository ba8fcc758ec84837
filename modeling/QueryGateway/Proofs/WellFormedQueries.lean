import QueryGateway.Proofs.FilterTree
import QueryGateway.Proofs.LiteralPieces

/-!
# Exactly the well-formed queries are compiled

Well-formedness is said of the query alone, clause by clause.  The verdict on a
part says how its rendering ends: it is written, or it fails with a fault of
the first clause that is not well formed, or an integer in it is too long to be
written.  Verdicts are put together as renderings are, the first failure
counting, so the verdict on a query follows from those on its operands.
-/

namespace QueryGateway

open List Sql

/-! ## Well-formed parts -/

/-- Whether an operand names a column, is a constant that can be written, or names a parameter. -/
def Operand.isWellFormed : Operand → Bool
  | .column _ name => name.any (· ≠ "")
  | .literal value => value.isRenderable
  | .parameter name => name.any fun name => isName name.toList

/-- Whether the integers of an operand are short enough to be written. -/
def Operand.hasShortIntegers : Operand → Bool
  | .column _ _ => true
  | .literal value => value.hasShortIntegers
  | .parameter _ => true

namespace Filter

mutual

/-- Whether a filter has all of its parts and they are well formed. -/
def isWellFormed : Filter → Bool
  | .comparison left operator right _ =>
      operator.isSome && left.any Operand.isWellFormed
        && right.any Operand.isWellFormed
  | .logical _ none _ => false
  | .logical operator (some children) _ =>
      operator.isSome && !children.isEmpty && areWellFormed children
  | .membership column values _ =>
      column.any Operand.isWellFormed
        && values.any fun values =>
            !values.isEmpty && values.all Operand.isWellFormed
  | .between column low high _ =>
      column.any Operand.isWellFormed && low.any Operand.isWellFormed
        && high.any Operand.isWellFormed
  | .isNull column _ => column.any Operand.isWellFormed
  | .isNotNull column _ => column.any Operand.isWellFormed
  | .like column pattern _ =>
      column.any Operand.isWellFormed && pattern.isSome

/-- Whether all filters of a list are well formed. -/
def areWellFormed : List Filter → Bool
  | [] => true
  | child :: rest => child.isWellFormed && areWellFormed rest

end

/-- The filters of a list are well formed one by one. -/
theorem areWellFormed_eq_all
    (filters : List Filter) :
    areWellFormed filters = filters.all isWellFormed := by
  induction filters with
  | nil =>
      rfl
  | cons filter rest inductionHypothesis =>
      simp [areWellFormed, inductionHypothesis]

/-- Whether the integers of a filter are short enough to be written. -/
def hasShortIntegers (filter : Filter) : Bool :=
  filter.operands.all Operand.hasShortIntegers

end Filter

/-- Whether a selected item is either a column or an expression that is not blank. -/
def SelectColumn.isWellFormed (item : SelectColumn) : Bool :=
  match item.expression, item.column with
  | some expression, none => !Text.isBlankText expression
  | none, some _ => true
  | _, _ => false

/-- Whether a join has a table, is known to the dialect, and has a well-formed condition unless it
is a cross join. -/
def Join.isWellFormed (dialect : Dialect) (join : Join) : Bool :=
  !join.table.isEmpty
    && (join.kind ≠ .full || dialect.supportsFullJoin)
    && (join.kind = .cross || join.condition.any Filter.isWellFormed)

namespace VisualQuery

/-- Whether the parts of a query that stand in a clause are well formed. -/
def clauseIsWellFormed (dialect : Dialect) (query : VisualQuery) : Clause → Bool
  | .select => !query.columns.isEmpty && query.columns.all SelectColumn.isWellFormed
  | .source => !query.source.table.isEmpty
  | .join => query.joins.all (Join.isWellFormed dialect)
  | .condition => query.filters.all Filter.isWellFormed
  | .having => query.having.all Filter.isWellFormed
  | .limit => query.limit.all (0 ≤ ·)
  | .offset => query.offset.all (0 ≤ ·)
  | .other _ => true

/-- The clauses that can be badly formed, in the order in which they are written. -/
def clauseOrder : List Clause :=
  [.select, .source, .join, .condition, .having, .limit, .offset]

/-- The first clause of a query that is not well formed. -/
def firstBadClause? (dialect : Dialect) (query : VisualQuery) : Option Clause :=
  clauseOrder.find? fun clause => !query.clauseIsWellFormed dialect clause

/-- Whether every clause of a query is well formed. -/
def isWellFormed (dialect : Dialect) (query : VisualQuery) : Bool :=
  clauseOrder.all (query.clauseIsWellFormed dialect)

/-- Whether the integers in the filters of a query that are written are short enough. -/
def hasShortLiterals (query : VisualQuery) : Bool :=
  query.writtenFilters.all Filter.hasShortIntegers

/-- Whether the bounds of a query are short enough to be written. -/
def hasShortBounds (query : VisualQuery) : Bool :=
  query.limit.all Numeral.isWritable && query.offset.all Numeral.isWritable

end VisualQuery

/-! ## Verdicts -/

/-- The clause that a badly formed part is blamed on. -/
def blame (clause : Clause) (wellFormed : Bool) : Option Clause :=
  if wellFormed then none else some clause

/-- The blame for two flaws falls on the first. -/
theorem blame_and
    (clause : Clause)
    (first second : Bool) :
    blame clause (first && second) =
      (blame clause first).or (blame clause second) := by
  cases first <;> rfl

/-- The first bad clause is the first one that is blamed. -/
theorem find?_cons_blame
    (clause : Clause)
    (rest : List Clause)
    (wellFormed : Clause → Bool) :
    ((clause :: rest).find? fun clause => !wellFormed clause) =
      (blame clause (wellFormed clause)).or
        (rest.find? fun clause => !wellFormed clause) := by
  cases isWellFormed : wellFormed clause <;> simp [isWellFormed, blame]

/-- How the writing of a part may end, given the first clause to blame and whether the integers
are short: without a failure, with a fault of that clause, or at an integer that is too long. -/
inductive Verdict (bad : Option Clause) (short : Bool) :
    Option CompileError → Prop where
  | written :
      bad = none →
      short = true →
      Verdict bad short none
  | fault {clause : Clause} {fault : QueryFault} :
      bad = some clause →
      Verdict bad short (some (.fault clause fault))
  | longInteger :
      short = false →
      Verdict bad short (some .longInteger)

namespace Verdict

/-- The verdict on two parts, one after the other. -/
theorem or
    {bad otherBad : Option Clause}
    {short otherShort : Bool}
    {failure otherFailure : Option CompileError}
    (first : Verdict bad short failure)
    (second : Verdict otherBad otherShort otherFailure) :
    Verdict (bad.or otherBad) (short && otherShort)
      (failure.or otherFailure) := by
  cases first with
  | written notBad isShort =>
      subst bad short
      simpa using second
  | fault isBad =>
      exact .fault (by simp [isBad])
  | longInteger long =>
      exact .longInteger (by simp [long])

/-- A part of which nothing can go wrong. -/
theorem always :
    Verdict none true none :=
  .written rfl rfl

/-- A part that is refused with a fault of its clause. -/
theorem refused
    (clause : Clause)
    (fault : QueryFault) :
    Verdict (blame clause false) true (some (.fault clause fault)) :=
  .fault rfl

/-- The verdict on two parts of one clause, one after the other. -/
theorem both
    {clause : Clause}
    {wellFormed otherWellFormed short otherShort : Bool}
    {failure otherFailure : Option CompileError}
    (first : Verdict (blame clause wellFormed) short failure)
    (second : Verdict (blame clause otherWellFormed) otherShort otherFailure) :
    Verdict (blame clause (wellFormed && otherWellFormed))
      (short && otherShort) (failure.or otherFailure) := by
  rw [blame_and]
  exact first.or second

/-- The verdict on a list of parts of one clause. -/
theorem all
    {clause : Clause}
    {wellFormed short : α → Bool}
    {failure : α → Option CompileError}
    (parts : List α)
    (verdicts :
      ∀ part ∈ parts,
        Verdict (blame clause (wellFormed part)) (short part) (failure part)) :
    Verdict (blame clause (parts.all wellFormed)) (parts.all short)
      (parts.findSome? failure) := by
  induction parts with
  | nil =>
      exact always
  | cons part rest inductionHypothesis =>
      have first := verdicts part (by simp)
      have others := inductionHypothesis fun other member =>
        verdicts other (by simp [member])
      have both := first.both others
      rw [findSome?_cons]
      simp only [all_cons]
      cases outcome : failure part with
      | none =>
          simpa [outcome] using both
      | some error =>
          simpa [outcome] using both

end Verdict

/-! ## Verdicts on the parts of a query -/

/-- A literal of a filter is blamed if its value cannot be rendered. -/
theorem Rendering.verdict_ofLiteral
    (clause : Clause)
    (value : Value) :
    Verdict (blame clause value.isRenderable) value.hasShortIntegers
      (Rendering.ofLiteral clause value).failure := by
  have outcome := literal_outcome value
  unfold Rendering.ofLiteral
  generalize literal value = result at outcome
  cases outcome with
  | written renderable short _ _ =>
      exact .written (by simp [blame, renderable]) short
  | unsupported notRenderable =>
      exact .fault (by simp [blame, notRenderable])
  | longInteger long =>
      exact .longInteger long

/-- An operand is blamed if it is not well formed. -/
theorem Operand.verdict_rendering
    (clause : Clause)
    (operand : Operand) :
    Verdict (blame clause operand.isWellFormed) operand.hasShortIntegers
      (operand.rendering clause).failure := by
  cases operand with
  | column table name =>
      cases name with
      | none =>
          exact .fault rfl
      | some name =>
          rw [rendering_column]
          split
          · rename_i empty
            exact .fault (by simp [isWellFormed, empty, blame])
          · rename_i named
            exact .written (by simp [isWellFormed, named, blame]) rfl
  | literal value =>
      exact Rendering.verdict_ofLiteral clause value
  | parameter name =>
      cases name with
      | none =>
          exact .fault rfl
      | some name =>
          rw [rendering_parameter]
          split
          · rename_i valid
            exact .written (by simp [isWellFormed, valid, blame]) rfl
          · rename_i invalid
            exact .fault (by simp [isWellFormed, invalid, blame])

/-- An operand that is missing is blamed like one that is not well formed. -/
theorem verdict_renderOperand
    (clause : Clause)
    (operand : Option Operand) :
    Verdict (blame clause (operand.any Operand.isWellFormed))
      (operand.toList.all Operand.hasShortIntegers)
      (renderOperand clause operand).failure := by
  cases operand with
  | none =>
      exact .fault rfl
  | some operand =>
      simpa [renderOperand] using operand.verdict_rendering clause

/-- The verdict on a filter. -/
theorem Filter.verdict_rendering
    (clause : Clause)
    (filter : Filter) :
    Verdict (blame clause filter.isWellFormed) filter.hasShortIntegers
      (filter.rendering clause).failure := by
  unfold Filter.rendering hasShortIntegers
  rw [failure_renderNegation]
  induction filter with
  | comparison left operator right negate =>
      cases operator with
      | none =>
          exact .fault rfl
      | some operator =>
          have both := (verdict_renderOperand clause left).both
            (verdict_renderOperand clause right)
          simpa [condition, isWellFormed, operands] using both
  | childless operator negate =>
      cases operator <;> exact .fault rfl
  | logical operator children negate inductionHypothesis =>
      cases operator with
      | none =>
          exact .fault rfl
      | some operator =>
          cases children with
          | nil =>
              exact .fault rfl
          | cons child children =>
              have all := Verdict.all (child :: children) inductionHypothesis
              rw [condition_logical, Rendering.failure_between,
                Rendering.failure_joined_map]
              simpa [isWellFormed, areWellFormed_eq_all, operands,
                childOperands_eq_flatMap, Filter.rendering, all_flatMap]
                using all
  | membership column values negate =>
      have columnVerdict := verdict_renderOperand clause column
      cases values with
      | none =>
          have both := columnVerdict.both (.refused clause .noValues)
          simpa [condition, isWellFormed, operands] using both
      | some values =>
          cases values with
          | nil =>
              have both := columnVerdict.both (.refused clause .noValues)
              simpa [condition, isWellFormed, operands] using both
          | cons value values =>
              have all := columnVerdict.both
                (Verdict.all (value :: values) fun operand _ =>
                  operand.verdict_rendering clause)
              rw [condition_membership, Rendering.failure_append,
                Rendering.failure_between, Rendering.failure_joined_map]
              simpa [isWellFormed, operands] using all
  | between column low high negate =>
      have all := (verdict_renderOperand clause column).both
        ((verdict_renderOperand clause low).both
          (verdict_renderOperand clause high))
      simpa [condition, isWellFormed, operands, Bool.and_assoc,
        Option.or_assoc] using all
  | isNull column negate =>
      simpa [condition, isWellFormed, operands] using
        verdict_renderOperand clause column
  | isNotNull column negate =>
      simpa [condition, isWellFormed, operands] using
        verdict_renderOperand clause column
  | like column pattern negate =>
      have columnVerdict := verdict_renderOperand clause column
      cases pattern with
      | none =>
          have both := columnVerdict.both (.refused clause .noPattern)
          simpa [condition, isWellFormed, operands] using both
      | some pattern =>
          simpa [condition, isWellFormed, operands] using columnVerdict

/-- A clause is blamed for a filter that is not well formed. -/
theorem verdict_renderFilters
    (clause : Clause)
    (filters : List Filter) :
    Verdict (blame clause (filters.all Filter.isWellFormed))
      (filters.all Filter.hasShortIntegers)
      (renderFilters clause filters).failure := by
  have all := Verdict.all filters fun filter _ =>
    filter.verdict_rendering clause
  unfold renderFilters
  split
  · rename_i filter
    simpa using filter.verdict_rendering clause
  · rw [Rendering.failure_joined_map]
    simpa using all

/-- The selection is blamed for an item that is not well formed. -/
theorem SelectColumn.verdict_rendering
    (item : SelectColumn) :
    Verdict (blame .select item.isWellFormed) true item.rendering.failure := by
  unfold SelectColumn.rendering isWellFormed
  cases item.expression with
  | none =>
      cases item.column with
      | none =>
          exact .fault rfl
      | some column =>
          exact .always
  | some expression =>
      cases item.column with
      | none =>
          by_cases blank : Text.isBlankText expression = true
          · simp only [blank]
            exact .fault rfl
          · simp only [blank]
            exact .always
      | some column =>
          exact .fault rfl

/-- The selection is blamed if it is empty or an item is not well formed. -/
theorem verdict_renderSelect
    (distinct : Bool)
    (columns : List SelectColumn) :
    Verdict
      (blame .select
        (!columns.isEmpty && columns.all SelectColumn.isWellFormed))
      true (renderSelect distinct columns).failure := by
  cases columns with
  | nil =>
      exact .fault rfl
  | cons item items =>
      have all := Verdict.all (item :: items) fun item _ =>
        item.verdict_rendering
      unfold renderSelect
      rw [isEmpty_cons, if_neg (by simp), Rendering.failure_append,
        Rendering.failure_joined_map]
      have noIntegers : ((item :: items).all fun _ => true) = true := by
        simp
      rw [noIntegers] at all
      simpa using all

/-- The source is blamed if it names no table. -/
theorem TableRef.verdict_rendering
    (source : TableRef) :
    Verdict (blame .source (!source.table.isEmpty)) true
      source.rendering.failure := by
  unfold TableRef.rendering
  cases source.table.isEmpty with
  | true =>
      exact .fault rfl
  | false =>
      exact .always

/-- The verdict on a join; only a condition that is written counts. -/
theorem Join.verdict_rendering
    (dialect : Dialect)
    (join : Join) :
    Verdict (blame .join (join.isWellFormed dialect))
      (join.writtenCondition?.all Filter.hasShortIntegers)
      (join.rendering dialect).failure := by
  unfold Join.rendering
  by_cases empty : join.table.isEmpty = true
  · rw [if_pos empty]
    exact .fault (by simp [isWellFormed, empty, blame])
  · rw [if_neg empty]
    by_cases unknown :
        join.kind = .full ∧ dialect.supportsFullJoin = false
    · rw [if_pos unknown]
      exact .fault (by simp [isWellFormed, unknown, blame])
    · rw [if_neg unknown]
      have known :
          (!decide (join.kind = .full) || dialect.supportsFullJoin) = true := by
        simpa [imp_iff_not_or] using unknown
      by_cases isCross : join.kind = .cross
      · rw [if_pos isCross]
        exact .written
          (by simp [isWellFormed, empty, isCross, blame])
          (by simp [writtenCondition?, isCross])
      · rw [if_neg isCross]
        cases condition : join.condition with
        | none =>
            exact .fault (by simp [isWellFormed, condition, isCross, blame])
        | some filter =>
            have verdict := filter.verdict_rendering .join
            simpa [isWellFormed, writtenCondition?, empty, known, isCross,
              condition] using verdict

/-- A bound that is refused is shown in the message, so only then it has to be short. -/
def isNamable (bound : Int) : Bool :=
  0 ≤ bound || Numeral.isWritable bound

/-- A bound that can be written can be named. -/
theorem all_isNamable_and_isWritable
    (bound : Option Int) :
    (bound.all isNamable && bound.all Numeral.isWritable) =
      bound.all Numeral.isWritable := by
  cases bound with
  | none =>
      rfl
  | some bound =>
      cases short : Numeral.isWritable bound <;> simp [isNamable, short]

/-- A clause is blamed for a bound that is negative. -/
theorem verdict_checkSign
    (clause : Clause)
    (negative : Int → QueryFault)
    (bound : Option Int) :
    Verdict (blame clause (bound.all (0 ≤ ·))) (bound.all isNamable)
      (checkSign clause negative bound).failure := by
  cases bound with
  | none =>
      exact .always
  | some bound =>
      unfold checkSign
      dsimp only
      split
      · rename_i positive
        exact .written (by simp_all [blame]) (by simp_all [isNamable])
      · rename_i negative
        split
        · exact .fault (by simp_all [blame])
        · rename_i long
          exact .longInteger (by simp_all [isNamable])

/-- Bounds are only refused for being too long. -/
theorem verdict_writeBounds
    (dialect : Dialect)
    (limit offset : Option Int) :
    Verdict none
      (limit.all Numeral.isWritable && offset.all Numeral.isWritable)
      (writeBounds dialect limit offset).failure := by
  unfold writeBounds
  split
  · rename_i short
    exact .written rfl short
  · rename_i long
    exact .longInteger (by simpa using long)

/-! ## Queries -/

/-- The clause that is written only if there is a filter fails as its filters do. -/
theorem failure_filterClause
    (clause : Clause)
    (keyword : String)
    (filters : List Filter) :
    (clauseUnless filters.isEmpty
        (.bare keyword ++ renderFilters clause filters)).findSome?
      Rendering.failure = (renderFilters clause filters).failure := by
  cases filters with
  | nil =>
      rfl
  | cons filter rest =>
      cases outcome : (renderFilters clause (filter :: rest)).failure <;>
        simp [clauseUnless, outcome]

/-- A clause that is written only if there is something to write it for fails at most as it does
when it is written. -/
theorem failure_clauseUnless_of_ok
    (absent : Bool)
    {clause : Rendering}
    (ok : clause.failure = none) :
    (clauseUnless absent clause).findSome? Rendering.failure = none := by
  cases absent <;> simp [clauseUnless, ok]

/-- A grouping never fails. -/
theorem failure_renderGroupBy
    (columns : List ColumnRef) :
    (renderGroupBy columns).failure = none := by
  unfold renderGroupBy
  rw [Rendering.failure_append, Rendering.failure_joined_map]
  simp

/-- An ordering never fails. -/
theorem failure_renderOrderBy
    (items : List OrderItem) :
    (renderOrderBy items).failure = none := by
  unfold renderOrderBy
  rw [Rendering.failure_append, Rendering.failure_joined_map]
  simp [OrderItem.rendering]

/-- The clause of the bounds fails as they do, even if there is nothing to write for them. -/
theorem failure_boundsClause
    (dialect : Dialect)
    (limit offset : Option Int) :
    (boundsClause dialect limit offset).findSome? Rendering.failure =
      (renderBounds dialect limit offset).failure := by
  unfold boundsClause
  dsimp only
  cases empty : (renderBounds dialect limit offset).isEmpty with
  | true =>
      simp only [Rendering.isEmpty, Bool.and_eq_true,
        Option.isNone_iff_eq_none] at empty
      simp [clauseUnless, empty.2]
  | false =>
      cases outcome : (renderBounds dialect limit offset).failure <;>
        simp [clauseUnless, outcome]

/-- A query fails in the first of its clauses that fails. -/
theorem VisualQuery.failure_rendering
    (dialect : Dialect)
    (query : VisualQuery) :
    (query.rendering dialect).failure =
      ((((((((renderSelect query.distinct query.columns).failure.or
        query.source.rendering.failure).or
        (query.joins.findSome? fun join =>
          (join.rendering dialect).failure)).or
        (renderFilters .condition query.filters).failure).or
        (renderFilters .having query.having).failure).or
        (checkSign .limit .negativeLimit query.limit).failure).or
        (checkSign .offset .negativeOffset query.offset).failure).or
        (writeBounds dialect query.limit query.offset).failure) := by
  have joins :
      (query.joins.map (Join.rendering dialect)).findSome?
        Rendering.failure =
          query.joins.findSome? fun join => (join.rendering dialect).failure := by
    rw [findSome?_map]
    rfl
  unfold rendering clauses
  rw [Rendering.failure_joined]
  simp only [findSome?_append, findSome?_cons, findSome?_nil, joins,
    failure_filterClause, failure_boundsClause,
    failure_clauseUnless_of_ok _ (failure_renderGroupBy query.groupBy),
    failure_clauseUnless_of_ok _ (failure_renderOrderBy query.orderBy)]
  cases (renderSelect query.distinct query.columns).failure <;>
    cases query.source.rendering.failure <;>
      simp [renderBounds, Option.or_assoc]

/-- The clauses of a query that can fail are written without a failure. -/
structure VisualQuery.IsWritten (dialect : Dialect) (query : VisualQuery) : Prop where
  select : (renderSelect query.distinct query.columns).failure = none
  source : query.source.rendering.failure = none
  joins : ∀ join ∈ query.joins, (join.rendering dialect).failure = none
  condition : (renderFilters .condition query.filters).failure = none
  having : (renderFilters .having query.having).failure = none
  limit : (checkSign .limit .negativeLimit query.limit).failure = none
  offset : (checkSign .offset .negativeOffset query.offset).failure = none

/-- A query that is rendered holds what can be written. -/
theorem VisualQuery.isWritten_of_rendering
    {dialect : Dialect}
    {query : VisualQuery}
    (succeeds : (query.rendering dialect).failure = none) :
    query.IsWritten dialect := by
  simp only [failure_rendering, Option.or_eq_none_iff,
    findSome?_eq_none_iff] at succeeds
  obtain ⟨⟨⟨⟨⟨⟨⟨select, source⟩, joins⟩, condition⟩, having⟩, limit⟩,
    offset⟩, _⟩ := succeeds
  exact ⟨select, source, joins, condition, having, limit, offset⟩

/-- The verdict on a query: the clause to blame is the first that is not well formed. -/
theorem VisualQuery.verdict_rendering
    (dialect : Dialect)
    (query : VisualQuery) :
    Verdict (query.firstBadClause? dialect)
      (query.hasShortLiterals && query.hasShortBounds)
      (query.rendering dialect).failure := by
  have joins := Verdict.all query.joins fun join _ =>
    join.verdict_rendering dialect
  have verdict :=
    (((((((verdict_renderSelect query.distinct query.columns).or
      query.source.verdict_rendering).or joins).or
      (verdict_renderFilters .condition query.filters)).or
      (verdict_renderFilters .having query.having)).or
      (verdict_checkSign .limit .negativeLimit query.limit)).or
      (verdict_checkSign .offset .negativeOffset query.offset)).or
      (verdict_writeBounds dialect query.limit query.offset)
  have bad :
      query.firstBadClause? dialect =
        (((((((blame .select (query.clauseIsWellFormed dialect .select)).or
          (blame .source (query.clauseIsWellFormed dialect .source))).or
          (blame .join (query.clauseIsWellFormed dialect .join))).or
          (blame .condition (query.clauseIsWellFormed dialect .condition))).or
          (blame .having (query.clauseIsWellFormed dialect .having))).or
          (blame .limit (query.clauseIsWellFormed dialect .limit))).or
          (blame .offset (query.clauseIsWellFormed dialect .offset))).or
          none := by
    simp only [firstBadClause?, clauseOrder, find?_cons_blame, find?_nil,
      Option.or_assoc]
  have literals :
      query.hasShortLiterals =
        (query.joins.all (fun join =>
          join.writtenCondition?.all Filter.hasShortIntegers) &&
          query.filters.all Filter.hasShortIntegers &&
          query.having.all Filter.hasShortIntegers) := by
    have joinLiterals :
        (query.joins.filterMap Join.writtenCondition?).all
            Filter.hasShortIntegers =
          query.joins.all fun join =>
            join.writtenCondition?.all Filter.hasShortIntegers := by
      rw [all_filterMap]
      rfl
    simp [hasShortLiterals, writtenFilters, joinLiterals, Bool.and_assoc]
  have bounds :
      query.hasShortBounds =
        (query.limit.all isNamable && query.offset.all isNamable &&
          query.hasShortBounds) := by
    have limit := all_isNamable_and_isWritable query.limit
    have offset := all_isNamable_and_isWritable query.offset
    unfold hasShortBounds
    rw [Bool.and_assoc, Bool.and_left_comm (query.offset.all isNamable),
      offset, ← Bool.and_assoc, limit]
  rw [failure_rendering, bad, literals, bounds]
  simpa [clauseIsWellFormed, hasShortBounds, Bool.and_assoc] using verdict

/-- A query is compiled exactly if it is well formed and its integers are short enough to be
written; if it is not compiled, the error is a fault of the first clause that is not well formed,
or there is an integer that is too long. -/
theorem VisualQuery.compile_verdict
    (dialect : Dialect)
    (query : VisualQuery) :
    ((∃ compiled, query.compile dialect = .ok compiled) ↔
      query.isWellFormed dialect = true ∧
        query.hasShortLiterals = true ∧ query.hasShortBounds = true) ∧
    ∀ error, query.compile dialect = .error error →
      (∃ clause fault,
        error = .fault clause fault ∧
          query.firstBadClause? dialect = some clause) ∨
      (error = .longInteger ∧
        (query.hasShortLiterals = false ∨ query.hasShortBounds = false)) := by
  have verdict := query.verdict_rendering dialect
  have wellFormed :
      query.firstBadClause? dialect = none ↔
        query.isWellFormed dialect = true := by
    simp [firstBadClause?, isWellFormed]
  unfold compile Rendering.result
  generalize query.rendering dialect = rendering at verdict
  obtain ⟨pieces, failure⟩ := rendering
  dsimp only at verdict ⊢
  cases verdict with
  | written notBad short =>
      rw [Bool.and_eq_true] at short
      simp [Except.map, wellFormed.mp notBad, short]
  | fault isBad =>
      have notWellFormed : query.isWellFormed dialect = false := by
        rw [← Bool.not_eq_true, ← wellFormed, isBad]
        simp
      simp [Except.map, notWellFormed, isBad]
  | longInteger long =>
      rw [Bool.and_eq_false_iff] at long
      rcases long with longLiteral | longBound
      · simp [Except.map, longLiteral]
      · simp [Except.map, longBound]

/-- A query with a limit. -/
def VisualQuery.limited (limit : Int) : VisualQuery where
  source := { table := "t", schema := none, label := none }
  joins := []
  columns :=
    [{ table := none, column := some "a", expression := none, label := none,
       aggregate := false }]
  filters := []
  groupBy := []
  having := []
  orderBy := []
  limit := some limit
  offset := none
  distinct := false

/-- A query that is not compiled only because its limit is too long. -/
theorem VisualQuery.limited_not_compiled
    (dialect : Dialect)
    {limit : Int}
    (positive : 0 ≤ limit)
    (long : Numeral.isWritable limit = false) :
    (limited limit).isWellFormed dialect = true ∧
      (limited limit).hasShortLiterals = true ∧
      (limited limit).compile dialect = .error .longInteger := by
  have failure :
      ((limited limit).rendering dialect).failure = some .longInteger := by
    rw [failure_rendering]
    simp [limited, renderSelect, SelectColumn.rendering,
      TableRef.rendering, renderFilters, Rendering.joined, Rendering.empty,
      checkSign, positive, writeBounds, long, Rendering.fail]
  refine ⟨?_, rfl, compile_of_failure failure⟩
  simp [isWellFormed, clauseOrder, clauseIsWellFormed, limited, positive,
    SelectColumn.isWellFormed]

/-- Well-formedness and short literals are not enough: the bounds have to be short too. -/
theorem VisualQuery.overlongLimit_not_compiled :
    let query := limited (Int.pow 10 Numeral.digitBound)
    query.isWellFormed .postgres = true ∧
      query.hasShortLiterals = true ∧
      query.compile .postgres = .error .longInteger := by
  have positive (digits : Nat) : (0 : Int) ≤ Int.pow 10 digits :=
    Int.pow_nonneg (by decide)
  have size (digits : Nat) : (Int.pow 10 digits).natAbs = Nat.pow 10 digits :=
    Int.natAbs_pow 10 digits
  have long : Numeral.isWritable (Int.pow 10 Numeral.digitBound) = false := by
    apply decide_eq_false
    rw [size]
    exact Nat.lt_irrefl _
  exact limited_not_compiled .postgres (positive _) long

end QueryGateway
