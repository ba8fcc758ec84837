import QueryGateway.Proofs.OperandReading

/-!
# The forms of a filter that can be read back

A filter with simple constants that is written is complete, and its operands
can be read back (`Filter.IsReadable`).  Behind its first operand stands one of
a few keywords of which none starts another.

Two things leave no trace in the text of a filter, and `Filter.canonical`
removes them: an empty qualifier of a column, and the operator of a connective
over a single filter.
-/

namespace QueryGateway

open List Sql

/-! ## What is asked of an operand -/

/-- The keywords that may stand behind the first operand of a filter. -/
inductive Keyword where
  | compares (operator : ComparisonOp)
  | isAmong
  | isBetween
  | isNull
  | isNotNull
  | isLike
  deriving Repr, DecidableEq

namespace Keyword

/-- The text of a keyword. -/
def text : Keyword → String
  | .compares operator => " " ++ operator.symbol ++ " "
  | .isAmong => " IN ("
  | .isBetween => " BETWEEN "
  | .isNull => " IS NULL"
  | .isNotNull => " IS NOT NULL"
  | .isLike => " LIKE "

/-- All keywords. -/
def all : List Keyword :=
  ComparisonOp.all.map .compares
    ++ [.isAmong, .isBetween, .isNull, .isNotNull, .isLike]

theorem mem_all
    (keyword : Keyword) :
    keyword ∈ all := by
  cases keyword with
  | compares operator => cases operator <;> decide
  | _ => decide

theorem prefixFree_text :
    PrefixFree text all := by
  decide

/-- The blank of a keyword stops the operand before it. -/
theorem startsWithStop
    (keyword : Keyword)
    (rest : List Token) :
    StartsWithStop Token.IsStop (word keyword.text ++ rest) := by
  cases keyword with
  | compares operator => cases operator <;> exact .cons (by decide) _
  | _ => exact .cons (by decide) _

end Keyword

namespace Predicate

/-- The keyword of a predicate. -/
def keyword : Predicate → Keyword
  | .compares operator _ => .compares operator
  | .isAmong _ _ => .isAmong
  | .isBetween _ _ => .isBetween
  | .isNull => .isNull
  | .isNotNull => .isNotNull
  | .isLike _ => .isLike

/-- A predicate whose operands have no empty qualifiers. -/
def canonical : Predicate → Predicate
  | .compares operator right => .compares operator right.canonical
  | .isAmong value values =>
      .isAmong value.canonical (values.map Operand.canonical)
  | .isBetween low high => .isBetween low.canonical high.canonical
  | .isNull => .isNull
  | .isNotNull => .isNotNull
  | .isLike pattern => .isLike pattern

/-- What comes behind the keyword of a predicate. -/
def argumentTokens (dialect : Dialect) : Predicate → List Token
  | .compares _ right => right.tokens dialect
  | .isAmong value values =>
      (word itemSeparator).intercalate
        ((value :: values).map (Operand.tokens dialect)) ++ word ")"
  | .isBetween low high =>
      low.tokens dialect ++ word " AND " ++ high.tokens dialect
  | .isNull | .isNotNull => []
  | .isLike pattern => [.quoted .text pattern.toList]

end Predicate

/-! ## Filters -/

/-- What stands between the filters under a connective. -/
def LogicalOp.separator (operator : LogicalOp) : String :=
  " " ++ operator.name ++ " "

theorem LogicalOp.prefixFree_separator :
    PrefixFree separator all := by
  decide

theorem LogicalOp.mem_all
    (operator : LogicalOp) :
    operator ∈ all := by
  cases operator <;> decide

namespace Filter

mutual

/-- A filter without empty qualifiers in which a connective over a single filter is a
conjunction. -/
def canonical : Filter → Filter
  | .comparison left operator right negate =>
      .comparison (left.map Operand.canonical) operator
        (right.map Operand.canonical) negate
  | .logical operator none negate => .logical operator none negate
  | .logical operator (some children) negate =>
      .logical
        (operator.map fun operator =>
          if children.length = 1 then .and else operator)
        (some (canonicalChildren children)) negate
  | .membership column values negate =>
      .membership (column.map Operand.canonical)
        (values.map (List.map Operand.canonical)) negate
  | .between column low high negate =>
      .between (column.map Operand.canonical) (low.map Operand.canonical)
        (high.map Operand.canonical) negate
  | .isNull column negate => .isNull (column.map Operand.canonical) negate
  | .isNotNull column negate =>
      .isNotNull (column.map Operand.canonical) negate
  | .like column pattern negate =>
      .like (column.map Operand.canonical) pattern negate

/-- The canonical forms of the children of a connective. -/
def canonicalChildren : List Filter → List Filter
  | [] => []
  | child :: rest => child.canonical :: canonicalChildren rest

end

theorem canonicalChildren_eq_map
    (children : List Filter) :
    canonicalChildren children = children.map canonical := by
  induction children with
  | nil =>
      rfl
  | cons child rest inductionHypothesis =>
      rw [canonicalChildren, inductionHypothesis, map_cons]

/-- Whether every constant of a filter is nothing, an integer or a text. -/
def HasSimpleLiterals (filter : Filter) : Prop :=
  ∀ operand ∈ filter.operands, operand.isSimple = true

/-- A filter in a form that can be read back. -/
abbrev IsReadable (filter : Filter) : Prop :=
  filter.IsComplete Operand.IsReadable

/-- A filter with simple constants that is written can be read back. -/
theorem isReadable_of_written
    {clause : Clause}
    {filter : Filter}
    (simple : filter.HasSimpleLiterals)
    (succeeds : (filter.rendering clause).failure = none) :
    filter.IsReadable :=
  (isComplete_of_rendering succeeds).imp fun operand member =>
    Operand.isReadable_of_written (simple operand member)

end Filter

/-! ## Canonical forms have the same text -/

theorem Sql.qualified_present
    (qualifier : Option String)
    (name : String) :
    qualified (present qualifier) name = qualified qualifier name := by
  cases qualifier with
  | none =>
      rfl
  | some qualifier =>
      by_cases empty : qualifier = ""
      · subst empty
        rfl
      · rw [present, Option.filter_some, if_pos (by simpa using empty)]

theorem Operand.rendering_canonical
    (clause : Clause)
    (operand : Operand) :
    operand.canonical.rendering clause = operand.rendering clause := by
  cases operand with
  | column table name =>
      cases name with
      | none =>
          rfl
      | some name =>
          rw [canonical, rendering_column, rendering_column, columnReference,
            qualified_present]
          rfl
  | literal value =>
      rfl
  | parameter name =>
      rfl

theorem renderOperand_canonical
    (clause : Clause)
    (operand : Option Operand) :
    renderOperand clause (operand.map Operand.canonical) =
      renderOperand clause operand := by
  cases operand with
  | none =>
      rfl
  | some operand =>
      exact operand.rendering_canonical clause

theorem Rendering.joined_single
    (separator otherSeparator : String)
    {renderings : List Rendering}
    (single : renderings.length = 1) :
    joined separator renderings = joined otherSeparator renderings := by
  obtain ⟨rendering, rfl⟩ := length_eq_one_iff.mp single
  rfl

/-- A filter and its canonical form have the same text. -/
theorem Filter.rendering_canonical
    (clause : Clause)
    (filter : Filter) :
    filter.canonical.rendering clause = filter.rendering clause := by
  have fromCondition
      {filter : Filter}
      (same : filter.canonical.condition clause = filter.condition clause) :
      filter.canonical.rendering clause = filter.rendering clause := by
    have sameNegate : filter.canonical.negate = filter.negate := by
      cases filter with
      | logical operator children negate =>
          cases children <;> rfl
      | _ => rfl
    rw [rendering, rendering, same, sameNegate]
  induction filter with
  | comparison left operator right negate =>
      apply fromCondition
      cases operator with
      | none =>
          rfl
      | some operator =>
          rw [canonical, condition, condition, renderOperand_canonical,
            renderOperand_canonical]
  | childless operator negate =>
      rfl
  | logical operator children negate inductionHypothesis =>
      apply fromCondition
      cases operator with
      | none =>
          rfl
      | some operator =>
          cases children with
          | nil =>
              rfl
          | cons child children =>
              have sameChildren :
                  ((child :: children).map canonical).map
                      (fun part => Rendering.between "(" (part.rendering clause) ")") =
                    (child :: children).map
                      (fun part => Rendering.between "(" (part.rendering clause) ")") := by
                rw [map_map]
                refine map_congr_left fun part member => ?_
                rw [Function.comp_apply, inductionHypothesis part member]
              rw [canonical, canonicalChildren_eq_map, map_cons,
                Option.map_some, condition_logical, condition_logical,
                ← map_cons, sameChildren]
              split
              · rename_i single
                rw [Rendering.joined_single _ (" " ++ operator.name ++ " ")]
                rw [length_map, single]
              · rfl
  | membership column values negate =>
      apply fromCondition
      cases values with
      | none =>
          rw [canonical, Option.map_none, condition, condition,
            renderOperand_canonical]
      | some values =>
          cases values with
          | nil =>
              rw [canonical, Option.map_some, map_nil, condition, condition,
                renderOperand_canonical]
          | cons value values =>
              have sameValues :
                  ((value :: values).map Operand.canonical).map
                      (Operand.rendering clause) =
                    (value :: values).map (Operand.rendering clause) := by
                rw [map_map]
                exact map_congr_left fun operand _ =>
                  operand.rendering_canonical clause
              rw [canonical, Option.map_some, map_cons, condition_membership,
                condition_membership, ← map_cons, sameValues,
                renderOperand_canonical]
  | between column low high negate =>
      apply fromCondition
      rw [canonical, condition, condition, renderOperand_canonical,
        renderOperand_canonical, renderOperand_canonical]
  | isNull column negate =>
      apply fromCondition
      rw [canonical, condition, condition, renderOperand_canonical]
  | isNotNull column negate =>
      apply fromCondition
      rw [canonical, condition, condition, renderOperand_canonical]
  | like column pattern negate =>
      apply fromCondition
      cases pattern <;>
        rw [canonical, condition, condition, renderOperand_canonical]

end QueryGateway
