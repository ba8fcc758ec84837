import QueryGateway.Proofs.WellFormedQueries
import QueryGateway.Query.Validation

/-!
# What validation foresees

Validating a query and compiling it check the same rules, each in its own way:
one looks for what is not given, the other for what is empty.  A query without
problems has its source written, and no join of it lacks a table.  Its selected
items are written too, unless one of them is an expression of blanks, which is
refused by the compiler only.
-/

namespace QueryGateway

open List Sql

/-! ## Queries without problems -/

theorem numberedProblems_eq_nil_iff
    (isBad : α → Bool)
    (problem : Nat → QueryProblem)
    (number : Nat)
    (items : List α) :
    numberedProblems isBad problem number items = [] ↔
      ∀ item ∈ items, isBad item = false := by
  induction items generalizing number with
  | nil =>
      simp [numberedProblems]
  | cons item rest inductionHypothesis =>
      simp [numberedProblems, inductionHypothesis]

/-- A text with something but blanks in it is not empty. -/
theorem Text.isEmpty_of_not_blank
    {text : String}
    (notBlank : isBlankText text = false) :
    text.isEmpty = false := by
  rw [← Bool.not_eq_true, String.isEmpty_iff]
  rintro rfl
  cases notBlank

/-- Whether an item is nothing but an expression of blanks. -/
def SelectColumn.isBlankExpression (item : SelectColumn) : Bool :=
  item.column.isNone && item.expression.any Text.isBlankText

namespace VisualQuery

/-- What validation has checked of a query without problems. -/
structure IsValidated (query : VisualQuery) : Prop where
  sourceNamed : Text.isBlankText query.source.table = false
  selects : query.columns ≠ []
  exactlyOne : ∀ item ∈ query.columns, item.column.isNone = !item.expression.isNone
  joinsNamed : ∀ join ∈ query.joins, Text.isBlankText join.table = false

theorem isValidated_of_validate
    {query : VisualQuery}
    (valid : query.validate = []) :
    query.IsValidated := by
  have noProblems : query.problems = [] := map_eq_nil_iff.mp valid
  simp only [problems, append_eq_nil_iff, numberedProblems_eq_nil_iff,
    ite_eq_right_iff, reduceCtorEq, imp_false, Bool.not_eq_true, isEmpty_eq_false_iff,
    decide_eq_false_iff_not] at noProblems
  obtain ⟨⟨⟨⟨sourceNamed, selects⟩, exactlyOne⟩, joinsNamed⟩, _⟩ := noProblems
  refine ⟨sourceNamed, selects, fun item member => ?_, joinsNamed⟩
  rw [Bool.eq_not]
  exact exactlyOne item member

end VisualQuery

/-! ## Faults of filters -/

/-- Whether a fault is one of the operands or the parts of a filter. -/
def QueryFault.isOfFilter : QueryFault → Bool
  | .noOperand | .noOperandColumn | .badParameterName _ | .unsupportedLiteral _
  | .noComparison | .noConnective | .noChildren | .noValues | .noPattern => true
  | _ => false

/-- Writing that fails at most for a fault of a filter or for an integer that is too long. -/
def FailsAsFilter (failure : Option CompileError) : Prop :=
  ∀ clause fault, failure = some (.fault clause fault) → fault.isOfFilter = true

namespace FailsAsFilter

theorem none :
    FailsAsFilter none := by
  rintro _ _ ⟨⟩

theorem fault
    {clause : Clause}
    {fault : QueryFault}
    (ofFilter : fault.isOfFilter = true) :
    FailsAsFilter (some (.fault clause fault)) := by
  rintro _ _ ⟨⟩
  exact ofFilter

theorem or
    {failure otherFailure : Option CompileError}
    (first : FailsAsFilter failure)
    (second : FailsAsFilter otherFailure) :
    FailsAsFilter (failure.or otherFailure) := by
  cases failure with
  | none =>
      exact second
  | some error =>
      exact first

theorem findSome?
    {failure : α → Option CompileError}
    {parts : List α}
    (all : ∀ part ∈ parts, FailsAsFilter (failure part)) :
    FailsAsFilter (parts.findSome? failure) := by
  intro clause fault failed
  obtain ⟨part, member, partFailed⟩ := exists_of_findSome?_eq_some failed
  exact all part member clause fault partFailed

end FailsAsFilter

theorem Operand.failsAsFilter
    (clause : Clause)
    (operand : Operand) :
    FailsAsFilter (operand.rendering clause).failure := by
  cases operand with
  | column table name =>
      cases name with
      | none =>
          exact .fault rfl
      | some name =>
          rw [rendering_column]
          split
          · exact .fault rfl
          · exact .none
  | literal value =>
      rw [rendering, Rendering.ofLiteral]
      split
      · exact .none
      · exact .fault rfl
      · rintro _ _ ⟨⟩
  | parameter name =>
      cases name with
      | none =>
          exact .fault rfl
      | some name =>
          rw [rendering_parameter]
          split
          · exact .none
          · exact .fault rfl

theorem renderOperand_failsAsFilter
    (clause : Clause)
    (operand : Option Operand) :
    FailsAsFilter (renderOperand clause operand).failure := by
  cases operand with
  | none =>
      exact .fault rfl
  | some operand =>
      exact operand.failsAsFilter clause

/-- A filter is refused for faults of filters only. -/
theorem Filter.failsAsFilter
    (clause : Clause)
    (filter : Filter) :
    FailsAsFilter (filter.rendering clause).failure := by
  have operands := renderOperand_failsAsFilter clause
  rw [Filter.rendering, failure_renderNegation]
  induction filter with
  | comparison left operator right negate =>
      cases operator with
      | none =>
          exact .fault rfl
      | some operator =>
          simpa [condition] using (operands left).or (operands right)
  | childless operator negate =>
      cases operator <;> exact .fault rfl
  | logical operator children negate inductionHypothesis =>
      cases operator with
      | none =>
          exact .fault rfl
      | some operator =>
          cases children with
          | nil =>
              exact .fault rfl
          | cons child children =>
              rw [condition_logical, Rendering.failure_between,
                Rendering.failure_joined_map]
              apply FailsAsFilter.findSome?
              intro child member
              rw [Rendering.failure_between, Filter.rendering, failure_renderNegation]
              exact inductionHypothesis child member
  | membership column values negate =>
      cases values with
      | none =>
          simpa [condition] using (operands column).or (.fault rfl)
      | some values =>
          cases values with
          | nil =>
              simpa [condition] using (operands column).or (.fault rfl)
          | cons value values =>
              rw [condition_membership, Rendering.failure_append,
                Rendering.failure_between, Rendering.failure_joined_map]
              exact (operands column).or
                (.findSome? fun operand _ => operand.failsAsFilter clause)
  | between column low high negate =>
      simpa [condition, Option.or_assoc] using
        (operands column).or ((operands low).or (operands high))
  | isNull column negate =>
      simpa [condition] using operands column
  | isNotNull column negate =>
      simpa [condition] using operands column
  | like column pattern negate =>
      cases pattern with
      | none =>
          simpa [condition] using (operands column).or (.fault rfl)
      | some pattern =>
          simpa [condition] using operands column

/-! ## Clauses that are blamed -/

/-- Writing that does not fail blames no clause. -/
theorem Verdict.wellFormed_of_written
    {clause : Clause}
    {wellFormed short : Bool}
    (verdict : Verdict (blame clause wellFormed) short none) :
    wellFormed = true := by
  cases verdict with
  | written notBad _ =>
      cases wellFormed with
      | false =>
          cases notBad
      | true =>
          rfl

namespace VisualQuery

theorem compile_eq_error_iff
    {dialect : Dialect}
    {query : VisualQuery}
    {error : CompileError} :
    query.compile dialect = .error error ↔
      (query.rendering dialect).failure = some error := by
  cases outcome : (query.rendering dialect).failure with
  | none =>
      simp [compile_of_ok outcome]
  | some other =>
      simp [compile_of_failure outcome]

/-- The clause that a compile error names is not well formed. -/
theorem clauseIsWellFormed_of_compile
    {dialect : Dialect}
    {query : VisualQuery}
    {clause : Clause}
    {fault : QueryFault}
    (fails : query.compile dialect = .error (.fault clause fault)) :
    query.clauseIsWellFormed dialect clause = false := by
  have verdict := query.verdict_rendering dialect
  rw [compile_eq_error_iff.mp fails] at verdict
  cases verdict with
  | fault isBad =>
      simpa using find?_some isBad

/-- Selected items that are written are not blamed for what becomes of the query. -/
theorem compile_ne_select
    (dialect : Dialect)
    {query : VisualQuery}
    (select : (renderSelect query.distinct query.columns).failure = none)
    (fault : QueryFault) :
    query.compile dialect ≠ .error (.fault .select fault) := by
  intro fails
  have verdict := verdict_renderSelect query.distinct query.columns
  rw [select] at verdict
  have notWellFormed := clauseIsWellFormed_of_compile fails
  rw [clauseIsWellFormed, verdict.wellFormed_of_written] at notWellFormed
  cases notWellFormed

/-- A source that is written is not blamed for what becomes of the query. -/
theorem compile_ne_source
    (dialect : Dialect)
    {query : VisualQuery}
    (source : query.source.rendering.failure = none)
    (fault : QueryFault) :
    query.compile dialect ≠ .error (.fault .source fault) := by
  intro fails
  have verdict := query.source.verdict_rendering
  rw [source] at verdict
  have notWellFormed := clauseIsWellFormed_of_compile fails
  rw [clauseIsWellFormed, verdict.wellFormed_of_written] at notWellFormed
  cases notWellFormed

end VisualQuery

/-! ## Foreseen faults -/

namespace VisualQuery.IsValidated

variable {query : VisualQuery}

/-- The source of a query without problems is written. -/
theorem failure_source
    (validated : query.IsValidated) :
    query.source.rendering.failure = none := by
  rw [TableRef.rendering, Text.isEmpty_of_not_blank validated.sourceNamed]
  rfl

/-- No join of a query without problems lacks its table. -/
theorem failure_join_ne
    (validated : query.IsValidated)
    (dialect : Dialect)
    {join : Join}
    (member : join ∈ query.joins)
    (clause : Clause) :
    (join.rendering dialect).failure ≠ some (.fault clause .noJoinTable) := by
  intro failed
  rw [Join.rendering, Text.isEmpty_of_not_blank (validated.joinsNamed join member),
    if_neg Bool.false_ne_true] at failed
  by_cases unknown : join.kind = .full ∧ dialect.supportsFullJoin = false
  · rw [if_pos unknown] at failed
    cases failed
  · rw [if_neg unknown] at failed
    by_cases isCross : join.kind = .cross
    · rw [if_pos isCross] at failed
      cases failed
    · rw [if_neg isCross] at failed
      cases condition : join.condition with
      | none =>
          rw [condition] at failed
          cases failed
      | some filter =>
          -- All that is left to fail is the condition, and a filter has no such fault.
          rw [condition] at failed
          have ofFilter :=
            filter.failsAsFilter .join clause .noJoinTable (by simpa using failed)
          cases ofFilter

/-- An item of a query without problems is written unless it is an expression of blanks. -/
theorem failure_item
    (validated : query.IsValidated)
    {item : SelectColumn}
    (member : item ∈ query.columns) :
    item.rendering.failure =
      if item.isBlankExpression then some (.fault .select .blankExpression) else none := by
  have exactlyOne := validated.exactlyOne item member
  obtain ⟨table, column, expression, label, aggregate⟩ := item
  cases expression with
  | none =>
      cases column with
      | none =>
          cases exactlyOne
      | some column =>
          rfl
  | some expression =>
      cases column with
      | none =>
          cases blank : Text.isBlankText expression <;>
            simp [SelectColumn.rendering, SelectColumn.isBlankExpression, blank]
      | some column =>
          cases exactlyOne

/-- The selected items of a query without problems are written unless there is an expression of
blanks among them. -/
theorem failure_select
    (validated : query.IsValidated) :
    (renderSelect query.distinct query.columns).failure =
      if query.columns.any SelectColumn.isBlankExpression then
        some (.fault .select .blankExpression)
      else
        none := by
  have items
      (columns : List SelectColumn)
      (subset : columns ⊆ query.columns) :
      (columns.findSome? fun item => item.rendering.failure) =
        if columns.any SelectColumn.isBlankExpression then
          some (.fault .select .blankExpression)
        else
          none := by
    induction columns with
    | nil =>
        rfl
    | cons item rest inductionHypothesis =>
        obtain ⟨member, restSubset⟩ := cons_subset.mp subset
        rw [findSome?_cons, validated.failure_item member, inductionHypothesis restSubset]
        cases blank : item.isBlankExpression <;> simp [blank]
  rw [renderSelect, isEmpty_eq_false_iff.mpr validated.selects,
    if_neg Bool.false_ne_true, Rendering.failure_append, Rendering.failure_bare,
    Option.none_or, Rendering.failure_joined_map, items _ (Subset.refl _)]

end VisualQuery.IsValidated

/-- A query without problems has its source written, no join of it lacks its table, and its selected
items are written unless one of them is an expression of blanks.  So compiling it fails in the
selected items exactly for such an expression, and never in the source. -/
theorem VisualQuery.compile_validated
    (dialect : Dialect)
    {query : VisualQuery}
    (valid : query.validate = []) :
    (renderSelect query.distinct query.columns).failure =
        (if query.columns.any SelectColumn.isBlankExpression then
          some (.fault .select .blankExpression)
        else
          none) ∧
      query.source.rendering.failure = none ∧
      (∀ join ∈ query.joins, ∀ clause,
        (join.rendering dialect).failure ≠ some (.fault clause .noJoinTable)) ∧
      (∀ fault,
        query.compile dialect = .error (.fault .select fault) ↔
          fault = .blankExpression ∧
            query.columns.any SelectColumn.isBlankExpression = true) ∧
      ∀ fault, query.compile dialect ≠ .error (.fault .source fault) := by
  have validated := isValidated_of_validate valid
  have select := validated.failure_select
  have source := validated.failure_source
  refine ⟨select, source, fun join member => validated.failure_join_ne dialect member,
    fun fault => ⟨fun fails => ?_, ?_⟩, compile_ne_source dialect source⟩
  · cases blank : query.columns.any SelectColumn.isBlankExpression with
    | false =>
        rw [blank] at select
        exact absurd fails (compile_ne_select dialect select fault)
    | true =>
        rw [compile_eq_error_iff, failure_rendering, select, blank] at fails
        cases fails
        exact ⟨rfl, rfl⟩
  · rintro ⟨rfl, blank⟩
    rw [compile_eq_error_iff, failure_rendering, select, blank]
    rfl

/-- A query of one table that selects an expression. -/
def VisualQuery.selecting (expression : String) : VisualQuery where
  source := { table := "sales", schema := none, label := none }
  joins := []
  columns :=
    [{ table := none, column := none, expression := some expression, label := none,
       aggregate := false }]
  filters := []
  groupBy := []
  having := []
  orderBy := []
  limit := none
  offset := none
  distinct := false

/-- A query of two tables that selects the number of rows. -/
def VisualQuery.crossing : VisualQuery :=
  { selecting "count(*)" with
    joins :=
      [{ kind := .cross, table := "days", schema := none, label := none,
         condition := none }] }

/-- What validation foresees of the query of two tables. -/
theorem VisualQuery.compile_validated_crossing :
    crossing.validate = [] ∧
      (renderSelect crossing.distinct crossing.columns).failure = none ∧
      crossing.source.rendering.failure = none ∧
      (∀ join ∈ crossing.joins, ∀ clause,
        (join.rendering .postgres).failure ≠ some (.fault clause .noJoinTable)) ∧
      ∀ fault, crossing.compile .postgres ≠ .error (.fault .source fault) := by
  have valid : crossing.validate = [] := by
    decide
  have written : crossing.columns.any SelectColumn.isBlankExpression = false := by
    decide
  obtain ⟨select, source, joins, _, notSource⟩ := compile_validated .postgres valid
  rw [written] at select
  exact ⟨valid, select, source, joins, notSource⟩

/-- An expression of blanks is no problem, but it is not compiled. -/
theorem VisualQuery.compile_blankExpression :
    (selecting " ").validate = [] ∧
      (selecting " ").compile .postgres = .error (.fault .select .blankExpression) := by
  refine ⟨by decide, ?_⟩
  rfl

end QueryGateway
