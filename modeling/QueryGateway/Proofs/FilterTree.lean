import QueryGateway.Query.Compile

/-!
# Filters as trees

What the results about compiling share: how renderings fail, an induction over
filters with a hypothesis for each child of a connective, the operands of a
filter from left to right, and the filters of a query that are written.
-/

namespace QueryGateway

open List Sql

/-! ## How renderings fail -/

namespace Rendering

@[simp]
theorem failure_of
    (pieces : List Piece) :
    (of pieces).failure = none := rfl

@[simp]
theorem failure_bare
    (text : String) :
    (bare text).failure = none := rfl

@[simp]
theorem failure_fault
    (clause : Clause)
    (fault : QueryFault) :
    (Rendering.fault clause fault).failure = some (.fault clause fault) := rfl

@[simp]
theorem failure_between
    (opening : String)
    (inner : Rendering)
    (closing : String) :
    (between opening inner closing).failure = inner.failure := by
  simp [between]

/-- Renderings with a separator between them fail as the first one that fails. -/
theorem failure_joined
    (separator : String)
    (renderings : List Rendering) :
    (joined separator renderings).failure = renderings.findSome? failure := by
  induction renderings with
  | nil =>
      rfl
  | cons rendering rest inductionHypothesis =>
      cases rest with
      | nil =>
          cases outcome : rendering.failure <;> simp [joined, outcome]
      | cons next rest =>
          rw [joined_cons_cons, failure_append, failure_append, failure_bare,
            Option.or_none, inductionHypothesis]
          cases outcome : rendering.failure <;>
            simp [findSome?_cons, outcome]

/-- Parts with a separator between them fail as the first part that fails. -/
theorem failure_joined_map
    (separator : String)
    (render : α → Rendering)
    (parts : List α) :
    (joined separator (parts.map render)).failure =
      parts.findSome? fun part => (render part).failure := by
  rw [failure_joined, findSome?_map]
  rfl

end Rendering

/-! ## Filters -/

namespace Filter

/-- Induction over filters; a connective comes with the hypothesis for each of its children. -/
@[elab_as_elim, induction_eliminator]
theorem treeInduction
    {motive : Filter → Prop}
    (comparison :
      ∀ left operator right negate,
        motive (.comparison left operator right negate))
    (childless :
      ∀ operator negate, motive (.logical operator none negate))
    (logical :
      ∀ operator children negate,
        (∀ child ∈ children, motive child) →
          motive (.logical operator (some children) negate))
    (membership :
      ∀ column values negate, motive (.membership column values negate))
    (between :
      ∀ column low high negate, motive (.between column low high negate))
    (isNull : ∀ column negate, motive (.isNull column negate))
    (isNotNull : ∀ column negate, motive (.isNotNull column negate))
    (like : ∀ column pattern negate, motive (.like column pattern negate)) :
    ∀ filter, motive filter
  | .comparison left operator right negate =>
      comparison left operator right negate
  | .logical operator none negate =>
      childless operator negate
  | .logical operator (some children) negate =>
      logical operator children negate fun child _ =>
        treeInduction comparison childless logical membership between
          isNull isNotNull like child
  | .membership column values negate =>
      membership column values negate
  | .between column low high negate =>
      between column low high negate
  | .isNull column negate =>
      isNull column negate
  | .isNotNull column negate =>
      isNotNull column negate
  | .like column pattern negate =>
      like column pattern negate
termination_by filter => sizeOf filter
decreasing_by
  have smaller := List.sizeOf_lt_of_mem ‹child ∈ children›
  simp only [Filter.logical.sizeOf_spec, Option.some.sizeOf_spec]
  omega

/-! ## Operands -/

mutual

/-- The operands of a filter from left to right. -/
def operands : Filter → List Operand
  | .comparison left _ right _ => left.toList ++ right.toList
  | .logical _ none _ => []
  | .logical _ (some children) _ => childOperands children
  | .membership column values _ => column.toList ++ values.getD []
  | .between column low high _ => column.toList ++ low.toList ++ high.toList
  | .isNull column _ => column.toList
  | .isNotNull column _ => column.toList
  | .like column _ _ => column.toList

/-- The operands of several filters from left to right. -/
def childOperands : List Filter → List Operand
  | [] => []
  | child :: rest => child.operands ++ childOperands rest

end

theorem childOperands_eq_flatMap
    (children : List Filter) :
    childOperands children = children.flatMap operands := by
  induction children with
  | nil =>
      rfl
  | cons child rest inductionHypothesis =>
      simp [childOperands, inductionHypothesis]

end Filter

/-- A column is written if it has a name. -/
theorem Operand.rendering_column
    (clause : Clause)
    (table : Option String)
    (name : String) :
    (Operand.column table (some name)).rendering clause =
      if name = "" then .fault clause .noOperandColumn
      else .of (columnReference table name) := by
  by_cases empty : name = ""
  · subst name
    rfl
  · simp [Operand.rendering, empty]

/-- A parameter is written if its name is one. -/
theorem Operand.rendering_parameter
    (clause : Clause)
    (name : String) :
    (Operand.parameter (some name)).rendering clause =
      if isName name.toList then .of [.placeholder name]
      else .fault clause (.badParameterName (some name)) := rfl

/-- An operand is refused, or it is a column, a constant or a parameter that is written. -/
theorem Operand.rendering_cases
    (clause : Clause)
    (operand : Operand) :
    (∃ error, operand.rendering clause = .fail error) ∨
    (∃ table name, operand = .column table (some name) ∧
      operand.rendering clause = .of (columnReference table name)) ∨
    (∃ value, operand = .literal value ∧
      operand.rendering clause = .ofLiteral clause value) ∨
    (∃ name, operand = .parameter (some name) ∧
      isName name.toList = true ∧
      operand.rendering clause = .of [.placeholder name]) := by
  cases operand with
  | column table name =>
      cases name with
      | none =>
          exact Or.inl ⟨_, rfl⟩
      | some name =>
          rw [rendering_column]
          split
          · exact Or.inl ⟨_, rfl⟩
          · exact Or.inr (Or.inl ⟨table, name, rfl, rfl⟩)
  | literal value =>
      exact Or.inr (Or.inr (Or.inl ⟨value, rfl, rfl⟩))
  | parameter name =>
      cases name with
      | none =>
          exact Or.inl ⟨_, rfl⟩
      | some name =>
          rw [rendering_parameter]
          split
          · rename_i valid
            exact Or.inr (Or.inr (Or.inr ⟨name, rfl, valid, rfl⟩))
          · exact Or.inl ⟨_, rfl⟩

@[simp]
theorem failure_renderNegation
    (negate : Bool)
    (condition : Rendering) :
    (renderNegation negate condition).failure = condition.failure := by
  cases negate <;> simp [renderNegation]

/-- A membership test in at least one value is written with its values between commas. -/
theorem Filter.condition_membership
    (clause : Clause)
    (column : Option Operand)
    (value : Operand)
    (values : List Operand)
    (negate : Bool) :
    (Filter.membership column (some (value :: values)) negate).condition clause =
      renderOperand clause column ++
        .between " IN ("
          (.joined itemSeparator
            ((value :: values).map (Operand.rendering clause))) ")" := rfl

/-- A connective over at least one filter is written with each one between parentheses. -/
theorem Filter.condition_logical
    (clause : Clause)
    (operator : LogicalOp)
    (child : Filter)
    (children : List Filter)
    (negate : Bool) :
    (Filter.logical (some operator) (some (child :: children)) negate).condition
        clause =
      .between "("
        (.joined (" " ++ operator.name ++ " ")
          ((child :: children).map fun filter =>
            .between "(" (filter.rendering clause) ")")) ")" := by
  rw [← renderChildren_eq_map]
  rfl

theorem VisualQuery.compile_of_failure
    {dialect : Dialect}
    {query : VisualQuery}
    {error : CompileError}
    (failed : (query.rendering dialect).failure = some error) :
    query.compile dialect = .error error := by
  simp [compile, Rendering.result, failed, Except.map]

theorem VisualQuery.compile_of_ok
    {dialect : Dialect}
    {query : VisualQuery}
    (succeeds : (query.rendering dialect).failure = none) :
    query.compile dialect =
      .ok
        { sql := Piece.write dialect (query.rendering dialect).pieces
          parameterNames := (query.rendering dialect).parameterNames
          dialect := dialect.name } := by
  simp [compile, Rendering.result, succeeds, Except.map]

/-- What a query that is compiled is compiled to. -/
theorem VisualQuery.compile_eq_ok
    {dialect : Dialect}
    {query : VisualQuery}
    {compiled : CompiledQuery}
    (isCompiled : query.compile dialect = .ok compiled) :
    (query.rendering dialect).failure = none ∧
      compiled =
        { sql := Piece.write dialect (query.rendering dialect).pieces
          parameterNames := (query.rendering dialect).parameterNames
          dialect := dialect.name } := by
  cases outcome : (query.rendering dialect).failure with
  | some error =>
      rw [compile_of_failure outcome] at isCompiled
      simp at isCompiled
  | none =>
      rw [compile_of_ok outcome, Except.ok.injEq] at isCompiled
      exact ⟨rfl, isCompiled.symm⟩

/-- The name of a parameter that an operand stands for. -/
def Operand.parameterName? : Operand → Option String
  | .parameter name => name
  | .column _ _ => none
  | .literal _ => none

/-- The names of the parameters of a filter from left to right, each as often as it occurs. -/
def Filter.parameterUses (filter : Filter) : List String :=
  filter.operands.filterMap Operand.parameterName?

/-- The condition of a join that is written; a cross join has none. -/
def Join.writtenCondition? (join : Join) : Option Filter :=
  if join.kind = .cross then none else join.condition

/-- A join is refused, or it is written with the condition that counts for it. -/
theorem Join.rendering_cases
    (dialect : Dialect)
    (join : Join) :
    let table : Rendering :=
      .bare (join.kind.keyword ++ " ") ++
        .of (tableReference join.schema join.table join.label)
    (∃ error, join.rendering dialect = .fail error) ∨
    (join.writtenCondition? = none ∧ join.rendering dialect = table) ∨
    (∃ condition, join.writtenCondition? = some condition ∧
      join.rendering dialect =
        table ++ .bare " ON " ++ condition.rendering .join) := by
  intro table
  unfold Join.rendering writtenCondition?
  by_cases empty : join.table.isEmpty = true
  · rw [if_pos empty]
    exact Or.inl ⟨_, rfl⟩
  · rw [if_neg empty]
    by_cases unknown :
        join.kind = .full ∧ dialect.supportsFullJoin = false
    · rw [if_pos unknown]
      exact Or.inl ⟨_, rfl⟩
    · rw [if_neg unknown]
      by_cases isCross : join.kind = .cross
      · rw [if_pos isCross, if_pos isCross]
        exact Or.inr (Or.inl ⟨rfl, rfl⟩)
      · rw [if_neg isCross, if_neg isCross]
        cases join.condition with
        | none =>
            exact Or.inl ⟨_, rfl⟩
        | some condition =>
            exact Or.inr (Or.inr ⟨condition, rfl, rfl⟩)

/-- The filters of a query that are written, in the order of the statement. -/
def VisualQuery.writtenFilters (query : VisualQuery) : List Filter :=
  query.joins.filterMap Join.writtenCondition? ++ query.filters ++ query.having

/-- The names of the parameters of a query in the order of the statement, each as often as it
occurs. -/
def VisualQuery.parameterUses (query : VisualQuery) : List String :=
  query.writtenFilters.flatMap Filter.parameterUses

theorem mem_clauseUnless
    {absent : Bool}
    {clause rendering : Rendering} :
    rendering ∈ clauseUnless absent clause ↔
      absent = false ∧ rendering = clause := by
  cases absent <;> simp [clauseUnless]

end QueryGateway
