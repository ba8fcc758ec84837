import Mathlib.Data.List.Basic
import QueryGateway.Proofs.TidyRendering
import QueryGateway.Sql.Placeholder

/-!
# The parameters of a compiled query

Two mechanisms list the parameters of a query: the compiler collects them as it
writes placeholders, and the resolver finds them in the text.  Both lists are
those of the query itself, read from left to right.

A rendering that does not fail writes a placeholder for each parameter of the
part that it renders (`Rendering.Uses`); nothing else that is written is one.
-/

namespace QueryGateway

open List Sql

/-! ## Placeholders that are read -/

namespace Sql

/-- The placeholders among the lexemes of a piece. -/
theorem Piece.name?_lexemes
    (dialect : Dialect)
    (piece : Piece) :
    (piece.lexemes dialect).filterMap Lexeme.name? = piece.name?.toList := by
  cases piece with
  | bare text =>
      simp [lexemes, name?, Lexeme.name?, filterMap_map, Function.comp_def]
  | truth value =>
      simp [lexemes, name?, Lexeme.name?, filterMap_map, Function.comp_def]
  | quoted kind content =>
      rfl
  | placeholder name =>
      simp [lexemes, name?, Lexeme.name?]
  | raw text =>
      simp [lexemes, name?, Lexeme.name?, filterMap_map, Function.comp_def]

/-- The parameters that are found in the text of tidy pieces are those of the pieces. -/
theorem parameterNames_write
    (dialect : Dialect)
    {pieces : List Piece}
    (tidy : Piece.Tidy pieces) :
    parameterNames dialect (Piece.write dialect pieces) =
      distinct (pieces.filterMap Piece.name?) := by
  unfold parameterNames
  rw [Piece.toList_write, Lexeme.scan_allChars dialect tidy,
    filterMap_flatMap, filterMap_eq_flatMap_toList]
  simp only [Piece.name?_lexemes]

end Sql

/-! ## Placeholders that are written -/

namespace Rendering

/-- A rendering that does not fail has written placeholders with these names, in this order. -/
def Uses (rendering : Rendering) (names : List String) : Prop :=
  rendering.failure = none →
    rendering.pieces.filterMap Piece.name? = names

namespace Uses

/-- Nothing is asked of a rendering that fails. -/
theorem fail
    (error : CompileError)
    (names : List String) :
    (Rendering.fail error).Uses names := by
  intro succeeds
  simp [Rendering.fail] at succeeds

/-- Pieces use the names that stand in them. -/
theorem of
    {pieces : List Piece}
    {names : List String}
    (named : pieces.filterMap Piece.name? = names) :
    (Rendering.of pieces).Uses names :=
  fun _ => named

/-- Bare text uses no name. -/
theorem bare
    (text : String) :
    (Rendering.bare text).Uses [] :=
  of rfl

/-- Placeholders are written from left to right. -/
theorem append
    {first second : Rendering}
    {names otherNames : List String}
    (firstUses : first.Uses names)
    (secondUses : second.Uses otherNames) :
    (first ++ second).Uses (names ++ otherNames) := by
  intro succeeds
  rw [failure_append, Option.or_eq_none_iff] at succeeds
  rw [pieces_append_of_ok second succeeds.1, filterMap_append,
    firstUses succeeds.1, secondUses succeeds.2]

/-- After a failure nothing is used. -/
theorem append_fail
    (rendering : Rendering)
    (error : CompileError)
    (names : List String) :
    (rendering ++ Rendering.fail error).Uses names := by
  intro succeeds
  simp [Rendering.fail] at succeeds

/-- A bare text between two renderings adds no placeholder. -/
theorem divided
    (text : String)
    {first second : Rendering}
    {names otherNames : List String}
    (firstUses : first.Uses names)
    (secondUses : second.Uses otherNames) :
    (first ++ Rendering.bare text ++ second).Uses (names ++ otherNames) := by
  have all := (firstUses.append (bare text)).append secondUses
  rwa [append_nil] at all

/-- What encloses a rendering uses no name. -/
theorem between
    (opening closing : String)
    {inner : Rendering}
    {names : List String}
    (uses : inner.Uses names) :
    (Rendering.between opening inner closing).Uses names := by
  have all := ((bare opening).append uses).append (bare closing)
  rwa [nil_append, append_nil] at all

end Uses

/-- Renderings that write placeholders with these names, one rendering after the other. -/
inductive AllUse : List Rendering → List String → Prop where
  | nil :
      AllUse [] []
  | cons {rendering : Rendering} {rest : List Rendering} {names otherNames : List String} :
      rendering.Uses names →
      AllUse rest otherNames →
      AllUse (rendering :: rest) (names ++ otherNames)

namespace AllUse

/-- Parts that each use their names use them all, in order. -/
theorem map
    {render : α → Rendering}
    {names : α → List String}
    {parts : List α}
    (uses : ∀ part ∈ parts, (render part).Uses (names part)) :
    AllUse (parts.map render) (parts.flatMap names) := by
  induction parts with
  | nil =>
      exact nil
  | cons part rest inductionHypothesis =>
      rw [map_cons, flatMap_cons]
      exact cons (uses part (by simp))
        (inductionHypothesis fun other member => uses other (by simp [member]))

/-- Two lists of renderings use their names one after the other. -/
theorem append
    {first second : List Rendering}
    {names otherNames : List String}
    (firstUse : AllUse first names)
    (secondUse : AllUse second otherNames) :
    AllUse (first ++ second) (names ++ otherNames) := by
  induction firstUse with
  | nil =>
      exact secondUse
  | cons uses _ inductionHypothesis =>
      rw [List.append_assoc]
      exact cons uses inductionHypothesis

/-- Renderings with a separator between them write their placeholders one after the other. -/
theorem joined
    (separator : String)
    {renderings : List Rendering}
    {names : List String}
    (allUse : AllUse renderings names) :
    (Rendering.joined separator renderings).Uses names := by
  induction allUse with
  | nil =>
      exact .of rfl
  | cons uses rest inductionHypothesis =>
      cases rest with
      | nil =>
          rw [append_nil]
          exact uses
      | cons next rest =>
          exact uses.divided separator inductionHypothesis

end AllUse

end Rendering

/-! ## Operands and filters -/

/-- A qualified name is no placeholder. -/
theorem name?_qualified
    (qualifier : Option String)
    (name : String) :
    (qualified qualifier name).filterMap Piece.name? = [] := by
  unfold qualified
  split <;> rfl

/-- An alias is no placeholder. -/
theorem name?_aliased
    (name : Option String) :
    (aliased name).filterMap Piece.name? = [] := by
  unfold aliased
  split <;> rfl

/-- A literal uses no name. -/
theorem Rendering.uses_ofLiteral
    (clause : Clause)
    (value : Value) :
    (Rendering.ofLiteral clause value).Uses [] := by
  rcases ofLiteral_cases clause value with
    ⟨error, refused⟩ | ⟨pieces, written, _, noNames⟩
  · rw [refused]
    exact .fail error []
  · rw [written]
    exact .of noNames

/-- An operand uses the name of its parameter, if it is one. -/
theorem Operand.uses_rendering
    (clause : Clause)
    (operand : Operand) :
    (operand.rendering clause).Uses operand.parameterName?.toList := by
  rcases operand.rendering_cases clause with
    ⟨error, refused⟩ | ⟨table, name, rfl, written⟩ | ⟨value, rfl, written⟩ |
      ⟨name, rfl, _, written⟩
  · rw [refused]
    exact .fail error _
  · rw [written]
    exact .of (name?_qualified table name)
  · rw [written]
    exact Rendering.uses_ofLiteral clause value
  · rw [written]
    exact .of rfl

/-- The names of the parameters of operands from left to right. -/
abbrev operandUses (operands : List Operand) : List String :=
  operands.filterMap Operand.parameterName?

/-- An operand that is missing uses no name. -/
theorem uses_renderOperand
    (clause : Clause)
    (operand : Option Operand) :
    (renderOperand clause operand).Uses (operandUses operand.toList) := by
  cases operand with
  | none =>
      exact .fail _ _
  | some operand =>
      have uses := operand.uses_rendering clause
      cases named : operand.parameterName? <;>
        simpa [renderOperand, operandUses, named] using uses

/-- A negation uses the names of its condition. -/
theorem uses_renderNegation
    (negate : Bool)
    {condition : Rendering}
    {names : List String}
    (uses : condition.Uses names) :
    (renderNegation negate condition).Uses names := by
  unfold renderNegation
  split
  · exact uses.between _ _
  · exact uses

/-- A filter writes a placeholder for each of its parameters. -/
theorem Filter.uses_rendering
    (clause : Clause)
    (filter : Filter) :
    (filter.rendering clause).Uses filter.parameterUses := by
  induction filter with
  | comparison left operator right negate =>
      apply uses_renderNegation
      cases operator with
      | none =>
          exact .fail _ _
      | some operator =>
          rw [parameterUses, operands, filterMap_append]
          exact (uses_renderOperand clause left).divided _
            (uses_renderOperand clause right)
  | childless operator negate =>
      apply uses_renderNegation
      cases operator <;> exact .fail _ _
  | logical operator children negate inductionHypothesis =>
      apply uses_renderNegation
      cases operator with
      | none =>
          exact .fail _ _
      | some operator =>
          cases children with
          | nil =>
              exact .fail _ _
          | cons child children =>
              rw [condition_logical, parameterUses, operands,
                childOperands_eq_flatMap, filterMap_flatMap]
              apply Rendering.Uses.between
              apply (Rendering.AllUse.map ?_).joined
              intro filter member
              exact (inductionHypothesis filter member).between _ _
  | membership column values negate =>
      apply uses_renderNegation
      have columnUses := uses_renderOperand clause column
      cases values with
      | none =>
          exact .append_fail _ _ _
      | some values =>
          cases values with
          | nil =>
              exact .append_fail _ _ _
          | cons value values =>
              have valuesUse := Rendering.AllUse.map
                fun operand (_ : operand ∈ value :: values) =>
                  operand.uses_rendering clause
              rw [condition_membership, parameterUses, operands,
                filterMap_append]
              apply columnUses.append
              apply Rendering.Uses.between
              rw [filterMap_eq_flatMap_toList]
              exact valuesUse.joined itemSeparator
  | between column low high negate =>
      apply uses_renderNegation
      rw [parameterUses, operands, filterMap_append, filterMap_append]
      exact ((uses_renderOperand clause column).divided _
        (uses_renderOperand clause low)).divided _
          (uses_renderOperand clause high)
  | isNull column negate =>
      apply uses_renderNegation
      have uses := (uses_renderOperand clause column).append (.bare " IS NULL")
      rwa [append_nil] at uses
  | isNotNull column negate =>
      apply uses_renderNegation
      have uses := (uses_renderOperand clause column).append (.bare " IS NOT NULL")
      rwa [append_nil] at uses
  | like column pattern negate =>
      apply uses_renderNegation
      cases pattern with
      | none =>
          exact .append_fail _ _ _
      | some pattern =>
          have noNames : (Rendering.of [.text pattern]).Uses [] := .of rfl
          have uses :=
            (uses_renderOperand clause column).divided " LIKE " noNames
          rwa [append_nil] at uses

/-- The filters of a clause use the names of each filter, in order. -/
theorem uses_renderFilters
    (clause : Clause)
    (filters : List Filter) :
    (renderFilters clause filters).Uses
      (filters.flatMap Filter.parameterUses) := by
  unfold renderFilters
  split
  · rename_i filter
    simpa using filter.uses_rendering clause
  · apply (Rendering.AllUse.map ?_).joined
    intro filter _
    exact (filter.uses_rendering clause).between _ _

/-! ## Clauses -/

/-- Parts without a placeholder with a separator between them write none. -/
theorem uses_joined_nameless
    (separator : String)
    {render : α → Rendering}
    {parts : List α}
    (uses : ∀ part ∈ parts, (render part).Uses []) :
    (Rendering.joined separator (parts.map render)).Uses [] := by
  have all := (Rendering.AllUse.map uses).joined separator
  rwa [flatMap_eq_nil_iff.mpr fun _ _ => rfl] at all

/-- A selected item uses no name. -/
theorem SelectColumn.uses_rendering
    (item : SelectColumn) :
    item.rendering.Uses [] := by
  unfold SelectColumn.rendering
  split
  · exact .fail _ _
  · split
    · exact .fail _ _
    · exact .of (name?_aliased item.label)
  · exact .fail _ _
  · exact .of (by simp [columnReference, name?_qualified, name?_aliased])

/-- The selection uses no name. -/
theorem uses_renderSelect
    (distinct : Bool)
    (columns : List SelectColumn) :
    (renderSelect distinct columns).Uses [] := by
  unfold renderSelect
  split
  · exact .fail _ _
  · exact (Rendering.Uses.bare _).append
      (uses_joined_nameless _ fun item _ => item.uses_rendering)

/-- A reference to a table is no placeholder. -/
theorem name?_tableReference
    (schema : Option String)
    (table : String)
    (name : Option String) :
    (tableReference schema table name).filterMap Piece.name? = [] := by
  simp [tableReference, name?_qualified, name?_aliased]

/-- A source uses no name. -/
theorem TableRef.uses_rendering
    (source : TableRef) :
    source.rendering.Uses [] := by
  unfold TableRef.rendering
  split
  · exact .fail _ _
  · exact (Rendering.Uses.bare _).append (.of (name?_tableReference _ _ _))

/-- A join writes a placeholder for each parameter of its condition, if that is written. -/
theorem Join.uses_rendering
    (dialect : Dialect)
    (join : Join) :
    (join.rendering dialect).Uses
      (join.writtenCondition?.toList.flatMap Filter.parameterUses) := by
  have table :
      (Rendering.bare (join.kind.keyword ++ " ") ++
        .of (tableReference join.schema join.table join.label)).Uses [] :=
    (Rendering.Uses.bare _).append (.of (name?_tableReference _ _ _))
  rcases join.rendering_cases dialect with
    ⟨error, refused⟩ | ⟨noCondition, written⟩ |
      ⟨condition, isCondition, written⟩
  · rw [refused]
    exact .fail error _
  · rw [written, noCondition]
    exact table
  · have uses := table.divided " ON " (condition.uses_rendering .join)
    rw [written, isCondition]
    simpa using uses

/-- The grouping uses no name. -/
theorem uses_renderGroupBy
    (columns : List ColumnRef) :
    (renderGroupBy columns).Uses [] :=
  (Rendering.Uses.bare _).append
    (uses_joined_nameless _ fun _ _ => .of (name?_qualified _ _))

/-- The ordering uses no name. -/
theorem uses_renderOrderBy
    (items : List OrderItem) :
    (renderOrderBy items).Uses [] := by
  apply (Rendering.Uses.bare "ORDER BY ").append
  apply uses_joined_nameless
  intro item _
  exact (Rendering.Uses.of (name?_qualified _ _)).append (.bare _)

/-- The bounds of the rows are no placeholders. -/
theorem name?_limitClause
    (dialect : Dialect)
    (limit offset : Option Int) :
    (limitClause dialect limit offset).filterMap Piece.name? = [] := by
  unfold limitClause writtenLimitClause
  dsimp only
  rw [Piece.filterMap_joined rfl, flatMap_eq_nil_iff]
  intro pieces member
  simp only [mem_append, Option.mem_toList, Option.map_eq_some_iff] at member
  rcases member with ⟨_, _, rfl⟩ | ⟨_, _, rfl⟩ <;> rfl

/-- The bounds of the rows use no name, also where they are refused. -/
theorem uses_renderBounds
    (dialect : Dialect)
    (limit offset : Option Int) :
    (renderBounds dialect limit offset).Uses [] := by
  have checked
      (clause : Clause)
      (negative : Int → QueryFault)
      (bound : Option Int) :
      (checkSign clause negative bound).Uses [] := by
    intro _
    rw [pieces_checkSign]
    rfl
  have written : (writeBounds dialect limit offset).Uses [] := by
    unfold writeBounds
    split
    · exact .of (name?_limitClause dialect limit offset)
    · exact .fail _ _
  exact ((checked _ _ limit).append (checked _ _ offset)).append written

/-! ## Queries -/

/-- A clause that is written only if there is something to write it for. -/
theorem uses_clauseUnless
    (absent : Bool)
    {clause : Rendering}
    {names : List String}
    (uses : clause.Uses names)
    (unlessAbsent : absent = true → names = []) :
    Rendering.AllUse (clauseUnless absent clause) names := by
  cases absent with
  | true =>
      rw [unlessAbsent rfl]
      exact .nil
  | false =>
      have one := Rendering.AllUse.cons uses .nil
      rwa [append_nil] at one

/-- The clause of filters that is written only if there is one. -/
theorem uses_filterClause
    (clause : Clause)
    (keyword : String)
    (filters : List Filter) :
    Rendering.AllUse
      (clauseUnless filters.isEmpty
        (.bare keyword ++ renderFilters clause filters))
      (filters.flatMap Filter.parameterUses) := by
  apply uses_clauseUnless
  · exact (Rendering.Uses.bare keyword).append (uses_renderFilters clause filters)
  · intro absent
    rw [List.isEmpty_iff] at absent
    rw [absent, flatMap_nil]

/-- A query writes a placeholder for each parameter of the filters that are written. -/
theorem VisualQuery.uses_rendering
    (dialect : Dialect)
    (query : VisualQuery) :
    (query.rendering dialect).Uses query.parameterUses := by
  have heads :
      Rendering.AllUse
        [renderSelect query.distinct query.columns, query.source.rendering] [] :=
    .cons (uses_renderSelect _ _) (.cons query.source.uses_rendering .nil)
  have joins :
      Rendering.AllUse (query.joins.map (Join.rendering dialect))
        (query.joins.flatMap fun join =>
          join.writtenCondition?.toList.flatMap Filter.parameterUses) :=
    .map fun join _ => join.uses_rendering dialect
  have filters := uses_filterClause .condition "WHERE " query.filters
  have groups :=
    uses_clauseUnless query.groupBy.isEmpty
      (uses_renderGroupBy query.groupBy) fun _ => rfl
  have having := uses_filterClause .having "HAVING " query.having
  have orders :=
    uses_clauseUnless query.orderBy.isEmpty
      (uses_renderOrderBy query.orderBy) fun _ => rfl
  have bounds :
      Rendering.AllUse (boundsClause dialect query.limit query.offset) [] :=
    uses_clauseUnless _ (uses_renderBounds dialect query.limit query.offset)
      fun _ => rfl
  have all := ((((((heads.append joins).append filters).append groups).append
    having).append orders).append bounds).joined "\n"
  simpa [rendering, clauses, parameterUses, writtenFilters,
    filterMap_eq_flatMap_toList, flatMap_assoc] using all

/-- The parameters that a compiled query lists are those that are found in its text, and those of
the filters of the query that are written, in the order of their first use. -/
theorem VisualQuery.parameterNames_compile
    (dialect : Dialect)
    {query : VisualQuery}
    (plain : query.ExpressionsArePlain)
    {compiled : CompiledQuery}
    (isCompiled : query.compile dialect = .ok compiled) :
    Sql.parameterNames dialect compiled.sql = compiled.parameterNames ∧
      compiled.parameterNames = Sql.distinct query.parameterUses := by
  have tidy := query.tidy_rendering dialect plain
  obtain ⟨succeeds, rfl⟩ := compile_eq_ok isCompiled
  have uses := query.uses_rendering dialect succeeds
  constructor
  · exact parameterNames_write dialect tidy
  · dsimp only
    rw [Rendering.parameterNames, uses]

/-- A query with names and texts that look like placeholders, quotes and comments, and a cross join
whose condition is not written. -/
def VisualQuery.sample : VisualQuery where
  source := { table := "orders", schema := some "a\"b", label := some ":o" }
  joins :=
    [{ table := "days", schema := none, label := none, kind := .cross,
       condition := some (.isNull (some (.parameter (some "dropped"))) false) }]
  columns :=
    [{ table := none, column := some "--", expression := none, label := none,
       aggregate := false },
     { table := none, column := none, expression := some "count(*)",
       label := some "/*", aggregate := true }]
  filters :=
    [.between (some (.column none (some "day")))
       (some (.parameter (some "start"))) (some (.parameter (some "stop"))) false,
     .like (some (.column (some ":o") (some "name"))) (some "it's :start --") true]
  groupBy := []
  having :=
    [.membership (some (.column none (some "day")))
       (some [.parameter (some "start"), .literal (.text "\\' :stop")]) false]
  orderBy := []
  limit := none
  offset := none
  distinct := false

/-- The sample's expressions hold no text of their own. -/
theorem VisualQuery.sample_plain :
    sample.ExpressionsArePlain := by
  intro item member expression isExpression
  simp only [sample, mem_cons, not_mem_nil, or_false] at member
  rcases member with rfl | rfl
  · simp at isExpression
  · simp only [Option.some.injEq] at isExpression
    subst expression
    refine ⟨?_, by decide +kernel, by decide +kernel⟩
    simp

/-- The parameters of the sample. -/
theorem VisualQuery.parameterNames_compile_sample :
    ∃ compiled, sample.compile .postgres = .ok compiled ∧
      Sql.parameterNames .postgres compiled.sql = ["start", "stop"] := by
  have isCompiled : sample.compile .postgres = .ok _ :=
    compile_of_ok rfl
  have uses : Sql.distinct sample.parameterUses = ["start", "stop"] := by
    decide
  obtain ⟨agree, listed⟩ :=
    parameterNames_compile .postgres sample_plain isCompiled
  exact ⟨_, isCompiled, agree.trans (listed.trans uses)⟩

end QueryGateway
