import QueryGateway.Proofs.ParameterNames
import QueryGateway.Proofs.TakenPieces
import QueryGateway.Proofs.Tokens
import QueryGateway.Proofs.WellFormedQueries

/-!
# Both dialects compile a query to the same statement

Compiled for either engine, a query fails with the same error, or it becomes
statements that the engines understand alike: token for token the same, but for
truth values and for the limit that goes before an offset without one
(`VisualQuery.compile_two_dialects`).

Where a truth value stands, the tokens do not tell.  So the correspondence is
over the truth values that the query holds, from left to right, and it has to
use up all of them.
-/

namespace QueryGateway

open List Sql

/-! ## Tokens that correspond -/

namespace Sql

/-- Tokens of the two dialects that are the same but for truth values, which are given from left to
right. -/
inductive SameTokens : List Bool → List Token → List Token → Prop where
  | nil :
      SameTokens [] [] []
  | same {truths : List Bool} {rest otherRest : List Token} (token : Token) :
      SameTokens truths rest otherRest →
      SameTokens truths (token :: rest) (token :: otherRest)
  | truth {truths : List Bool} {rest otherRest : List Token} (value : Bool) :
      SameTokens truths rest otherRest →
      SameTokens (value :: truths)
        (word (if value then "TRUE" else "FALSE") ++ rest)
        (word (if value then "1" else "0") ++ otherRest)

theorem SameTokens.append_same
    {truths : List Bool}
    {rest otherRest : List Token}
    (tokens : List Token)
    (correspond : SameTokens truths rest otherRest) :
    SameTokens truths (tokens ++ rest) (tokens ++ otherRest) := by
  induction tokens with
  | nil =>
      exact correspond
  | cons token tokens inductionHypothesis =>
      exact .same token inductionHypothesis

/-- The truth value that a piece is. -/
def Piece.truth? : Piece → Option Bool
  | .truth value => some value
  | _ => none

/-- Pieces are understood alike in both dialects, but for the truth values among them. -/
theorem sameTokens_allTokens
    (fullJoin : Bool)
    (pieces : List Piece) :
    SameTokens (pieces.filterMap Piece.truth?)
      (Piece.allTokens .postgres pieces)
      (Piece.allTokens (.clickHouse fullJoin) pieces) := by
  induction pieces with
  | nil =>
      exact .nil
  | cons piece rest inductionHypothesis =>
      rw [Piece.allTokens_cons, Piece.allTokens_cons]
      cases piece with
      | truth value =>
          cases value with
          | true => exact .truth true inductionHypothesis
          | false => exact .truth false inductionHypothesis
      | bare text => exact inductionHypothesis.append_same (word text)
      | quoted kind content => exact .same _ inductionHypothesis
      | placeholder name => exact .same _ inductionHypothesis
      | raw text => exact inductionHypothesis.append_same (word text)

end Sql

/-! ## The truth values of a query -/

mutual

/-- The truth values in a value from left to right. -/
def Value.truths : Value → List Bool
  | .bool value => [value]
  | .sequence _ items => truthsOf items
  | _ => []

/-- The truth values in the values of a list. -/
def Value.truthsOf : List Value → List Bool
  | [] => []
  | value :: rest => value.truths ++ truthsOf rest

end

/-- The truth values of an operand. -/
def Operand.truths : Operand → List Bool
  | .literal value => value.truths
  | .column _ _ | .parameter _ => []

/-- The truth values of a filter from left to right. -/
def Filter.truths (filter : Filter) : List Bool :=
  filter.operands.flatMap Operand.truths

/-- The truth values of a query in the order of the statement. -/
def VisualQuery.truths (query : VisualQuery) : List Bool :=
  query.writtenFilters.flatMap Filter.truths

/-- The truth values of a value are written one after the other. -/
theorem Sql.truths_literal
    {value : Value}
    {pieces : List Piece}
    (written : literal value = .ok pieces) :
    pieces.filterMap Piece.truth? = value.truths := by
  refine literalInduction rfl (fun _ => rfl) (fun _ => rfl) (fun _ _ => rfl)
    (fun _ _ => rfl) (fun _ => rfl) (fun _ => rfl) (fun _ => rfl) ?items written
  case items =>
    rintro kind values lists - writtenItems
    rw [Piece.filterMap_joined rfl, Value.truths]
    induction writtenItems with
    | nil =>
        rfl
    | cons first _ inductionHypothesis =>
        rw [flatMap_cons, Value.truthsOf, first, inductionHypothesis]

theorem Sql.takesNoKeyword_truth? :
    TakesNoKeyword Piece.truth? :=
  ⟨fun _ _ => rfl, fun _ _ => rfl⟩

theorem Operand.truths_pieces
    {clause : Clause}
    {operand : Operand}
    (succeeds : (operand.rendering clause).failure = none) :
    operand.pieces.filterMap Piece.truth? = operand.truths := by
  rcases written_cases succeeds with
    ⟨table, name, rfl⟩ | ⟨value, pieces, rfl, isOk⟩ | ⟨name, rfl⟩
  · exact takesNoKeyword_truth?.filterMap_qualified table name
  · rw [Operand.pieces, isOk]
    exact truths_literal isOk
  · rfl

theorem Filter.truths_pieces
    {clause : Clause}
    {filter : Filter}
    (succeeds : (filter.rendering clause).failure = none) :
    filter.pieces.filterMap Piece.truth? = filter.truths := by
  rw [filterMap_pieces takesNoKeyword_truth?, truths]
  exact flatMap_congr fun operand member =>
    Operand.truths_pieces
      ((isComplete_of_rendering succeeds).of_mem_operands operand member)

/-- The filters that stand in a statement without a failure do not fail. -/
theorem VisualQuery.failure_writtenFilter
    {dialect : Dialect}
    {query : VisualQuery}
    (succeeds : (query.rendering dialect).failure = none)
    {filter : Filter}
    (member : filter ∈ query.writtenFilters) :
    ∃ clause, (filter.rendering clause).failure = none := by
  have isWritten := isWritten_of_rendering succeeds
  simp only [writtenFilters, mem_append, mem_filterMap] at member
  rcases member with (⟨join, isJoin, written⟩ | inFilters) | inHaving
  · exact ⟨.join,
      failure_of_writtenCondition (isWritten.joins join isJoin) written⟩
  · exact ⟨.condition, failure_of_renderFilters isWritten.condition inFilters⟩
  · exact ⟨.having, failure_of_renderFilters isWritten.having inHaving⟩

theorem VisualQuery.truths_leadingPieces
    {dialect : Dialect}
    {query : VisualQuery}
    (succeeds : (query.rendering dialect).failure = none) :
    query.leadingPieces.flatMap (filterMap Piece.truth?) = query.truths := by
  rw [filterMap_leadingPieces takesNoKeyword_truth? fun _ _ _ _ => rfl, truths]
  refine flatMap_congr fun filter member => ?_
  obtain ⟨clause, written⟩ := failure_writtenFilter succeeds member
  exact Filter.truths_pieces written

/-! ## Failures -/

theorem Join.rendering_clickHouse
    (join : Join) :
    join.rendering (.clickHouse true) = join.rendering .postgres := by
  simp [Join.rendering, Dialect.supportsFullJoin]

/-- A query fails for one dialect as it fails for the other if both know full joins. -/
theorem VisualQuery.failure_clickHouse
    (query : VisualQuery) :
    (query.rendering (.clickHouse true)).failure =
      (query.rendering .postgres).failure := by
  have bounds :
      (writeBounds (.clickHouse true) query.limit query.offset).failure =
        (writeBounds .postgres query.limit query.offset).failure := by
    unfold writeBounds
    split <;> rfl
  simp only [failure_rendering, Join.rendering_clickHouse, bounds]

/-! ## Statements -/

/-- An offset that is written without a limit. -/
def VisualQuery.loneOffset? (query : VisualQuery) : Option Int :=
  if query.limit = none then query.offset.filter (0 < ·) else none

/-- Statements for PostgreSQL and for ClickHouse that correspond token by token.  Only an offset
without a limit makes a difference besides the truth values: in front of it ClickHouse is given the
greatest limit. -/
def VisualQuery.Correspond
    (query : VisualQuery)
    (statement otherStatement : List Token) :
    Prop :=
  ∃ body otherBody,
    SameTokens query.truths body otherBody ∧
    match query.loneOffset? with
    | none =>
        statement = body ∧ otherStatement = otherBody
    | some offset =>
        statement = body ++ word ("OFFSET " ++ Numeral.ofInt offset) ∧
        otherStatement =
          otherBody ++ word "LIMIT 9223372036854775807 "
            ++ word ("OFFSET " ++ Numeral.ofInt offset)

/-- The bounds are written alike unless an offset stands alone. -/
theorem VisualQuery.limitClause_cases
    {dialect : Dialect}
    {query : VisualQuery}
    (fullJoin : Bool)
    (succeeds : (query.rendering dialect).failure = none) :
    (query.loneOffset? = none ∧
      limitClause (.clickHouse fullJoin) query.limit query.offset =
        limitClause .postgres query.limit query.offset) ∨
    ∃ offset, query.loneOffset? = some offset ∧
      limitClause .postgres query.limit query.offset =
        [.bare ("OFFSET " ++ Numeral.ofInt offset)] ∧
      limitClause (.clickHouse fullJoin) query.limit query.offset =
        [.bare "LIMIT 9223372036854775807", .bare " ",
          .bare ("OFFSET " ++ Numeral.ofInt offset)] := by
  have offsetSucceeds := (isWritten_of_rendering succeeds).offset
  cases limited : query.limit with
  | some limit =>
      exact Or.inl ⟨by simp [loneOffset?, limited], rfl⟩
  | none =>
      cases skipping : query.offset with
      | none =>
          exact Or.inl ⟨by simp [loneOffset?, limited, skipping], rfl⟩
      | some offset =>
          rw [skipping] at offsetSucceeds
          have nonneg := checkSign_nonneg offsetSucceeds
          by_cases isZero : offset = 0
          · subst isZero
            exact Or.inl ⟨by simp [loneOffset?, limited, skipping], rfl⟩
          · have positive : 0 < offset := by
              omega
            have written : (some offset).filter (· ≠ 0) = some offset := by
              simpa using isZero
            refine Or.inr ⟨offset, ?_, ?_, ?_⟩
            · simpa [loneOffset?, limited, skipping] using positive
            · rw [limitClause, written]
              rfl
            · rw [limitClause, written]
              rfl

/-- The statements of a query that does not fail correspond. -/
theorem VisualQuery.correspond_pieces
    {query : VisualQuery}
    (succeeds : (query.rendering .postgres).failure = none)
    (fullJoin : Bool) :
    query.Correspond
      (Piece.allTokens .postgres
        (Piece.joined "\n" (query.clausePieces .postgres)))
      (Piece.allTokens (.clickHouse fullJoin)
        (Piece.joined "\n" (query.clausePieces (.clickHouse fullJoin)))) := by
  have truths := truths_leadingPieces succeeds
  rcases query.limitClause_cases fullJoin succeeds with
    ⟨notAlone, sameBounds⟩ | ⟨offset, alone, bounds, otherBounds⟩
  · refine ⟨_, _, ?_, by rw [notAlone]; exact ⟨rfl, rfl⟩⟩
    have sameClauses :
        query.clausePieces (.clickHouse fullJoin) =
          query.clausePieces .postgres := by
      rw [clausePieces, clausePieces, sameBounds]
    have allTruths :
        (Piece.joined "\n" (query.clausePieces .postgres)).filterMap
            Piece.truth? = query.truths := by
      rw [Piece.filterMap_joined rfl, clausePieces, flatMap_append, truths,
        filterMap_piecesUnless fun _ =>
          filterMap_limitClause takesNoKeyword_truth? (fun _ _ _ => rfl) _ _ _,
        filterMap_limitClause takesNoKeyword_truth? (fun _ _ _ => rfl), append_nil]
    rw [sameClauses, ← allTruths]
    exact sameTokens_allTokens fullJoin _
  · -- The clauses before the bounds and the line end behind them are the same for both.
    let leading := Piece.joined "\n" query.leadingPieces ++ [.bare "\n"]
    have split
        (dialect : Dialect)
        {first : Piece}
        {rest : List Piece}
        (written :
          limitClause dialect query.limit query.offset = first :: rest) :
        Piece.joined "\n" (query.clausePieces dialect) =
          leading ++ first :: rest := by
      have clauses :
          query.clausePieces dialect =
            query.leadingPieces ++ [first :: rest] := by
        rw [clausePieces, written]
        rfl
      rw [clauses, Piece.joined_concat "\n" (by simp [leadingPieces]),
        append_assoc, singleton_append]
    have leadingTruths : leading.filterMap Piece.truth? = query.truths := by
      rw [filterMap_append, Piece.filterMap_joined rfl, truths]
      exact append_nil _
    refine ⟨_, _, leadingTruths ▸ sameTokens_allTokens fullJoin leading, ?_⟩
    rw [alone, split .postgres bounds, split (.clickHouse fullJoin) otherBounds]
    constructor
    · simp [Piece.tokens]
    · simp [Piece.tokens, word]

/-- Compiled for either engine, a query fails with the same error, or it has the same parameters and
its statements correspond. -/
theorem VisualQuery.compile_two_dialects
    {query : VisualQuery}
    (plain : query.ExpressionsArePlain) :
    (∃ error,
      query.compile .postgres = .error error ∧
      query.compile (.clickHouse true) = .error error) ∨
    ∃ compiled other,
      query.compile .postgres = .ok compiled ∧
      query.compile (.clickHouse true) = .ok other ∧
      compiled.parameterNames = other.parameterNames ∧
      query.Correspond (tokens .postgres compiled.sql)
        (tokens (.clickHouse true) other.sql) := by
  have sameFailure := query.failure_clickHouse
  cases outcome : (query.rendering .postgres).failure with
  | some error =>
      rw [outcome] at sameFailure
      exact Or.inl
        ⟨error, compile_of_failure outcome, compile_of_failure sameFailure⟩
  | none =>
      rw [outcome] at sameFailure
      refine Or.inr
        ⟨_, _, compile_of_ok outcome, compile_of_ok sameFailure, ?_, ?_⟩
      · dsimp only
        rw [Rendering.parameterNames, Rendering.parameterNames,
          query.uses_rendering .postgres outcome,
          query.uses_rendering (.clickHouse true) sameFailure]
      · dsimp only
        rw [tokens_write _ (query.tidy_rendering _ plain),
          tokens_write _ (query.tidy_rendering _ plain),
          rendering_eq_of outcome, rendering_eq_of sameFailure]
        exact correspond_pieces outcome true

/-- A query with truth values and an offset without a limit. -/
def VisualQuery.skipping : VisualQuery where
  source := { table := "it\\'s", schema := none, label := some "a`b" }
  joins := []
  columns :=
    [{ table := none, column := some "say \"hi\"", expression := none,
       label := none, aggregate := false }]
  filters :=
    [.comparison (some (.column none (some "paid"))) (some .eq)
       (some (.literal (.bool true))) false,
     .membership (some (.column none (some "kind")))
       (some [.literal (.list [.text "it's", .bool false]),
         .parameter (some "kind")]) true]
  groupBy := []
  having := []
  orderBy := []
  limit := none
  offset := some 5
  distinct := true

theorem VisualQuery.compile_two_dialects_skipping :
    skipping.ExpressionsArePlain ∧
    ∃ compiled other,
      skipping.compile .postgres = .ok compiled ∧
      skipping.compile (.clickHouse true) = .ok other ∧
      compiled.parameterNames = other.parameterNames ∧
      skipping.Correspond (tokens .postgres compiled.sql)
        (tokens (.clickHouse true) other.sql) := by
  have plain : skipping.ExpressionsArePlain := by
    intro item member expression isExpression
    simp only [skipping, mem_singleton] at member
    subst member
    cases isExpression
  refine ⟨plain, ?_⟩
  rcases compile_two_dialects plain with ⟨error, failed, _⟩ | corresponding
  · have succeeds : (skipping.rendering .postgres).failure.isNone = true := by
      decide +kernel
    rw [compile_of_ok (Option.isNone_iff_eq_none.mp succeeds)] at failed
    cases failed
  · exact corresponding

end QueryGateway
