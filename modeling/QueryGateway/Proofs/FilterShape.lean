import QueryGateway.Proofs.FilterTree

/-!
# The shape of a filter that is written

A filter is written only if nothing is missing in it: it asks a predicate of an
operand, or it connects filters of which the same can be said.  So what holds of
a filter that is written is proved in two cases (`Filter.IsComplete`), and there
is one proof that opens the rendering of each kind of filter to show that
nothing is missing (`Filter.isComplete_of_rendering`).
-/

namespace QueryGateway

open List Sql

/-! ## Predicates -/

/-- What a filter that is no connective asks of its first operand. -/
inductive Predicate where
  | compares (operator : ComparisonOp) (right : Operand)
  | isAmong (value : Operand) (values : List Operand)
  | isBetween (low high : Operand)
  | isNull
  | isNotNull
  | isLike (pattern : String)

namespace Predicate

/-- The operands of a predicate besides the first one. -/
def operands : Predicate → List Operand
  | .compares _ right => [right]
  | .isAmong value values => value :: values
  | .isBetween low high => [low, high]
  | .isNull | .isNotNull | .isLike _ => []

/-- The filter that asks a predicate of an operand. -/
def filter (column : Operand) (negate : Bool) : Predicate → Filter
  | .compares operator right =>
      .comparison (some column) (some operator) (some right) negate
  | .isAmong value values =>
      .membership (some column) (some (value :: values)) negate
  | .isBetween low high =>
      .between (some column) (some low) (some high) negate
  | .isNull => .isNull (some column) negate
  | .isNotNull => .isNotNull (some column) negate
  | .isLike pattern => .like (some column) (some pattern) negate

@[simp]
theorem negate_filter
    (predicate : Predicate)
    (column : Operand)
    (negate : Bool) :
    (predicate.filter column negate).negate = negate := by
  cases predicate <;> rfl

theorem operands_filter
    (predicate : Predicate)
    (column : Operand)
    (negate : Bool) :
    (predicate.filter column negate).operands = column :: predicate.operands := by
  cases predicate <;> rfl

end Predicate

/-! ## Complete filters -/

/-- An operand that is written is there. -/
theorem exists_of_renderOperand
    {clause : Clause}
    {operand : Option Operand}
    (succeeds : (renderOperand clause operand).failure = none) :
    ∃ part, operand = some part ∧
      (part.rendering clause).failure = none := by
  cases operand with
  | none =>
      simp [renderOperand] at succeeds
  | some part =>
      exact ⟨part, rfl, succeeds⟩

namespace Filter

/-- A filter in which nothing is missing and whose operands have a property. -/
inductive IsComplete (holds : Operand → Prop) : Filter → Prop where
  | asks {column : Operand} (predicate : Predicate) (negate : Bool) :
      holds column →
      (∀ operand ∈ predicate.operands, holds operand) →
      IsComplete holds (predicate.filter column negate)
  | connects (operator : LogicalOp) {child : Filter} {children : List Filter}
      (negate : Bool) :
      (∀ part ∈ child :: children, IsComplete holds part) →
      IsComplete holds
        (.logical (some operator) (some (child :: children)) negate)

/-- The operands of a complete filter have the property. -/
theorem IsComplete.of_mem_operands
    {holds : Operand → Prop}
    {filter : Filter}
    (complete : filter.IsComplete holds) :
    ∀ operand ∈ filter.operands, holds operand := by
  induction complete with
  | asks predicate negate columnHolds argumentsHold =>
      rw [Predicate.operands_filter]
      exact forall_mem_cons.mpr ⟨columnHolds, argumentsHold⟩
  | connects operator negate _ inductionHypothesis =>
      intro operand member
      rw [operands, childOperands_eq_flatMap] at member
      obtain ⟨part, isPart, inPart⟩ := mem_flatMap.mp member
      exact inductionHypothesis part isPart operand inPart

theorem IsComplete.imp
    {holds otherHolds : Operand → Prop}
    {filter : Filter}
    (complete : filter.IsComplete holds)
    (implies : ∀ operand ∈ filter.operands, holds operand → otherHolds operand) :
    filter.IsComplete otherHolds := by
  induction complete with
  | asks predicate negate columnHolds argumentsHold =>
      rw [Predicate.operands_filter, forall_mem_cons] at implies
      exact .asks predicate negate (implies.1 columnHolds)
        fun operand member =>
          implies.2 operand member (argumentsHold operand member)
  | connects operator negate _ inductionHypothesis =>
      refine .connects operator negate fun part isPart => ?_
      refine inductionHypothesis part isPart fun operand inPart => ?_
      rw [operands, childOperands_eq_flatMap] at implies
      exact implies operand (mem_flatMap.mpr ⟨part, isPart, inPart⟩)

/-- A filter that is written is complete, and its operands are written. -/
theorem isComplete_of_rendering
    {clause : Clause}
    {filter : Filter}
    (succeeds : (filter.rendering clause).failure = none) :
    filter.IsComplete fun operand =>
      (operand.rendering clause).failure = none := by
  rw [rendering, failure_renderNegation] at succeeds
  induction filter with
  | comparison left operator right negate =>
      cases operator with
      | none =>
          simp [condition] at succeeds
      | some operator =>
          simp only [condition, Rendering.failure_append,
            Option.or_eq_none_iff] at succeeds
          obtain ⟨column, rfl, columnWritten⟩ :=
            exists_of_renderOperand succeeds.1.1
          obtain ⟨value, rfl, valueWritten⟩ :=
            exists_of_renderOperand succeeds.2
          exact IsComplete.asks (.compares operator value) negate columnWritten
            (by simpa [Predicate.operands] using valueWritten)
  | childless operator negate =>
      cases operator <;> simp [condition] at succeeds
  | logical operator children negate inductionHypothesis =>
      cases operator with
      | none =>
          simp [condition] at succeeds
      | some operator =>
          cases children with
          | nil =>
              simp [condition] at succeeds
          | cons child children =>
              rw [condition_logical, Rendering.failure_between,
                Rendering.failure_joined_map,
                findSome?_eq_none_iff] at succeeds
              refine .connects operator negate fun part isPart => ?_
              have partSucceeds := succeeds part isPart
              rw [Rendering.failure_between, rendering,
                failure_renderNegation] at partSucceeds
              exact inductionHypothesis part isPart partSucceeds
  | membership column values negate =>
      cases values with
      | none =>
          simp [condition] at succeeds
      | some values =>
          cases values with
          | nil =>
              simp [condition] at succeeds
          | cons value values =>
              rw [condition_membership, Rendering.failure_append,
                Rendering.failure_between, Option.or_eq_none_iff,
                Rendering.failure_joined_map,
                findSome?_eq_none_iff] at succeeds
              obtain ⟨column, rfl, columnWritten⟩ :=
                exists_of_renderOperand succeeds.1
              exact IsComplete.asks (.isAmong value values) negate columnWritten
                succeeds.2
  | between column low high negate =>
      simp only [condition, Rendering.failure_append,
        Option.or_eq_none_iff] at succeeds
      obtain ⟨column, rfl, columnWritten⟩ :=
        exists_of_renderOperand succeeds.1.1.1.1
      obtain ⟨low, rfl, lowWritten⟩ := exists_of_renderOperand succeeds.1.1.2
      obtain ⟨high, rfl, highWritten⟩ := exists_of_renderOperand succeeds.2
      exact IsComplete.asks (.isBetween low high) negate columnWritten
        (by simpa [Predicate.operands] using ⟨lowWritten, highWritten⟩)
  | isNull column negate =>
      simp only [condition, Rendering.failure_append,
        Option.or_eq_none_iff] at succeeds
      obtain ⟨column, rfl, columnWritten⟩ := exists_of_renderOperand succeeds.1
      exact IsComplete.asks .isNull negate columnWritten
        (by simp [Predicate.operands])
  | isNotNull column negate =>
      simp only [condition, Rendering.failure_append,
        Option.or_eq_none_iff] at succeeds
      obtain ⟨column, rfl, columnWritten⟩ := exists_of_renderOperand succeeds.1
      exact IsComplete.asks .isNotNull negate columnWritten
        (by simp [Predicate.operands])
  | like column pattern negate =>
      cases pattern with
      | none =>
          simp [condition] at succeeds
      | some pattern =>
          simp only [condition, Rendering.failure_append,
            Option.or_eq_none_iff] at succeeds
          obtain ⟨column, rfl, columnWritten⟩ :=
            exists_of_renderOperand succeeds.1.1
          exact IsComplete.asks (.isLike pattern) negate columnWritten
            (by simp [Predicate.operands])

end Filter

end QueryGateway
