import QueryGateway.Proofs.FilterForms
import QueryGateway.Proofs.TidyRendering

/-!
# Filters are read back from their text

The text of a filter determines the filter, for every nesting of connectives
and negations and every content of its names and texts
(`Filter.canonical_eq_of_text_eq`).

The proof cuts a text from the left.  An operand ends at the first blank, comma
or parenthesis outside quoted tokens, the keyword behind it tells what is asked
of it, and each filter under a connective ends at its own closing parenthesis.
-/

namespace QueryGateway

open List Sql

/-! ## Cutting filters -/

/-- What comes behind a filter is closed off by a parenthesis, or there is nothing. -/
abbrev Closed (rest : List Token) : Prop :=
  StartsWithStop (· = .character ')') rest

theorem Closed.startsWithStop
    {rest : List Token}
    (closed : Closed rest) :
    StartsWithStop Token.IsStop rest := by
  refine closed.imp ?_
  rintro token rfl
  decide

theorem closed_parenthesis
    (rest : List Token) :
    Closed (word ")" ++ rest) :=
  .cons (by rfl) rest

section

variable {dialect : Dialect}

namespace Predicate

theorem canonical_filter
    (predicate : Predicate)
    (column : Operand)
    (negate : Bool) :
    (predicate.filter column negate).canonical =
      predicate.canonical.filter column.canonical negate := by
  cases predicate <;> rfl

/-- The values of a membership test are told apart from the parenthesis that closes them. -/
theorem values_cancel
    {values otherValues : List Operand}
    (nonempty : values ≠ [])
    (otherNonempty : otherValues ≠ [])
    (readable : ∀ value ∈ values, value.IsReadable)
    (otherReadable : ∀ value ∈ otherValues, value.IsReadable)
    {rest otherRest : List Token}
    (same :
      (word itemSeparator).intercalate (values.map (Operand.tokens dialect))
          ++ (word ")" ++ rest) =
        (word itemSeparator).intercalate
            (otherValues.map (Operand.tokens dialect))
          ++ (word ")" ++ otherRest)) :
    values.map Operand.canonical = otherValues.map Operand.canonical ∧
      rest = otherRest := by
  have separates
      (rest : List Token) :
      StartsWithStop Token.IsStop (word itemSeparator ++ rest) :=
    .cons (by decide) _
  have ends
      (rest otherRest : List Token) :
      word ")" ++ rest ≠ word itemSeparator ++ otherRest := by
    intro same
    cases same
  obtain ⟨sameValues, closings, _⟩ :=
    intercalate_cancel (Operand.tokens dialect) Operand.canonical
      (StartsWithStop Token.IsStop)
      (fun value member other otherMember _ _ =>
        (readable value member).tokens_cancel (otherReadable other otherMember))
      separates separates
      (fun _ _ rests => ⟨rfl, append_cancel_left rests⟩)
      (closed_parenthesis rest).startsWithStop
      (closed_parenthesis otherRest).startsWithStop
      (fun other => ends rest other)
      (fun other => (ends otherRest other).symm)
      nonempty otherNonempty same
  exact ⟨sameValues, append_cancel_left closings⟩

/-- What a predicate is asked with is told apart from what closes the filter. -/
theorem arguments_cancel
    {predicate other : Predicate}
    (readable : ∀ operand ∈ predicate.operands, operand.IsReadable)
    (otherReadable : ∀ operand ∈ other.operands, operand.IsReadable)
    (sameKeyword : predicate.keyword = other.keyword)
    {rest otherRest : List Token}
    (closed : Closed rest)
    (otherClosed : Closed otherRest)
    (same :
      predicate.argumentTokens dialect ++ rest =
        other.argumentTokens dialect ++ otherRest) :
    predicate.canonical = other.canonical ∧ rest = otherRest := by
  cases predicate with
  | compares operator right =>
      cases other with
      | compares otherOperator otherRight =>
          obtain ⟨sameRight, rests⟩ :=
            (readable right mem_cons_self).tokens_cancel
              (otherReadable otherRight mem_cons_self)
              closed.startsWithStop otherClosed.startsWithStop same
          cases sameKeyword
          rw [canonical, canonical, sameRight]
          exact ⟨rfl, rests⟩
      | _ => cases sameKeyword
  | isAmong value values =>
      cases other with
      | isAmong otherValue otherValues =>
          rw [argumentTokens, argumentTokens, append_assoc,
            append_assoc] at same
          obtain ⟨sameValues, rests⟩ :=
            values_cancel (cons_ne_nil value values)
              (cons_ne_nil otherValue otherValues) readable otherReadable same
          rw [map_cons, map_cons, cons.injEq] at sameValues
          rw [canonical, canonical, sameValues.1, sameValues.2]
          exact ⟨rfl, rests⟩
      | _ => cases sameKeyword
  | isBetween low high =>
      cases other with
      | isBetween otherLow otherHigh =>
          have separates
              (rest : List Token) :
              StartsWithStop Token.IsStop (word " AND " ++ rest) :=
            .cons (by decide) _
          simp only [argumentTokens, append_assoc] at same
          obtain ⟨sameLow, highs⟩ :=
            (readable low mem_cons_self).tokens_cancel
              (otherReadable otherLow mem_cons_self)
              (separates _) (separates _) same
          obtain ⟨sameHigh, rests⟩ :=
            (readable high (mem_cons_of_mem _ mem_cons_self)).tokens_cancel
              (otherReadable otherHigh (mem_cons_of_mem _ mem_cons_self))
              closed.startsWithStop otherClosed.startsWithStop
              (append_cancel_left highs)
          rw [canonical, canonical, sameLow, sameHigh]
          exact ⟨rfl, rests⟩
      | _ => cases sameKeyword
  | isNull =>
      cases other with
      | isNull => exact ⟨rfl, same⟩
      | _ => cases sameKeyword
  | isNotNull =>
      cases other with
      | isNotNull => exact ⟨rfl, same⟩
      | _ => cases sameKeyword
  | isLike pattern =>
      cases other with
      | isLike otherPattern =>
          simp only [argumentTokens, singleton_append, cons.injEq,
            Token.quoted.injEq, true_and, String.toList_inj] at same
          rw [same.1]
          exact ⟨rfl, same.2⟩
      | _ => cases sameKeyword

end Predicate

namespace Filter

/-- What a filter is understood as before it is turned into its opposite. -/
def conditionTokens (dialect : Dialect) (filter : Filter) : List Token :=
  Piece.allTokens dialect filter.conditionPieces

/-- What a filter is understood as. -/
def tokens (dialect : Dialect) (filter : Filter) : List Token :=
  Piece.allTokens dialect filter.pieces

theorem tokens_eq
    (filter : Filter) :
    filter.tokens dialect =
      if filter.negate then
        word "NOT (" ++ filter.conditionTokens dialect ++ word ")"
      else
        filter.conditionTokens dialect := by
  rw [tokens, pieces, negatedPieces]
  split
  · simp [Piece.tokens, conditionTokens]
  · rfl

theorem conditionTokens_asks
    (column : Operand)
    (predicate : Predicate)
    (negate : Bool) :
    (predicate.filter column negate).conditionTokens dialect =
      column.tokens dialect ++
        (word predicate.keyword.text ++ predicate.argumentTokens dialect) := by
  cases predicate with
  | isAmong value values =>
      have sameValues :
          ((value :: values).map Operand.pieces).map
              (Piece.allTokens dialect) =
            (value :: values).map (Operand.tokens dialect) := by
        rw [map_map]
        rfl
      simp only [Predicate.filter, conditionTokens, conditionPieces,
        operandPieces, Option.getD_some, Piece.allTokens_append,
        Piece.allTokens_cons, Piece.allTokens_nil, Piece.allTokens_joined,
        sameValues, append_nil, append_assoc]
      rfl
  | _ =>
      simp [Predicate.filter, conditionTokens, conditionPieces, operandPieces,
        Predicate.keyword, Predicate.argumentTokens, Keyword.text,
        Operand.tokens, Piece.tokens]

theorem conditionTokens_connects
    (operator : LogicalOp)
    (children : List Filter)
    (negate : Bool) :
    (Filter.logical (some operator) (some children) negate).conditionTokens
        dialect =
      word "(" ++
        ((word operator.separator).intercalate
          (children.map fun child =>
            word "(" ++ (child.tokens dialect ++ word ")"))
        ++ word ")") := by
  simp [conditionTokens, conditionPieces, childPieces_eq_map, parenthesised,
    Piece.allTokens_joined, Piece.tokens, tokens, Function.comp_def,
    LogicalOp.separator]

/-- No filter starts like the negation of one. -/
theorem IsReadable.conditionTokens_ne_not
    {filter : Filter}
    (readable : filter.IsReadable)
    (rest otherRest : List Token) :
    filter.conditionTokens dialect ++ rest ≠ word "NOT (" ++ otherRest := by
  intro same
  cases readable with
  | @asks column predicate negate columnReadable operandsReadable =>
      rw [conditionTokens_asks, append_assoc, append_assoc] at same
      have split : word "NOT (" = word "NOT" ++ word " (" := rfl
      have blank : StartsWithStop Token.IsStop (word " (" ++ otherRest) :=
        .cons (by decide) _
      have free : ∀ token ∈ word "NOT", ¬ token.IsStop := by
        decide
      rw [split, append_assoc] at same
      obtain ⟨sameFront, _⟩ :=
        append_cancel_of_stops (fun _ => columnReadable.tokens_free) free
          (predicate.keyword.startsWithStop _) blank same
      exact columnReadable.tokens_ne_not sameFront
  | connects operator negate childrenReadable =>
      rw [conditionTokens_connects] at same
      cases same

/-- A predicate of an operand starts unlike a connective. -/
theorem asks_ne_connects
    {column : Operand}
    (readable : column.IsReadable)
    (predicate : Predicate)
    (operator : LogicalOp)
    (children : List Filter)
    (negate otherNegate : Bool)
    (rest otherRest : List Token) :
    (predicate.filter column negate).conditionTokens dialect ++ rest ≠
      (Filter.logical (some operator) (some children)
        otherNegate).conditionTokens dialect ++ otherRest := by
  intro same
  rw [conditionTokens_asks, conditionTokens_connects, append_assoc,
    append_assoc, append_assoc] at same
  have opens
      (rest : List Token) :
      StartsWithStop Token.IsStop (word "(" ++ rest) :=
    .cons (by decide) rest
  have noFront : ∀ token ∈ ([] : List Token), ¬ token.IsStop := by
    simp
  obtain ⟨empty, _⟩ :=
    append_cancel_of_stops (fun _ => readable.tokens_free) noFront
      (predicate.keyword.startsWithStop _) (opens _) same
  exact readable.tokens_ne_nil empty

/-- Negations are cut off where conditions are. -/
theorem negation_cancel
    {filter other : Filter}
    (readable : filter.IsReadable)
    (otherReadable : other.IsReadable)
    {sameCondition : Prop}
    (cut :
      ∀ rest otherRest, Closed rest → Closed otherRest →
        filter.conditionTokens dialect ++ rest =
          other.conditionTokens dialect ++ otherRest →
        sameCondition ∧ rest = otherRest)
    {rest otherRest : List Token}
    (closed : Closed rest)
    (otherClosed : Closed otherRest)
    (same : filter.tokens dialect ++ rest = other.tokens dialect ++ otherRest) :
    filter.negate = other.negate ∧ sameCondition ∧ rest = otherRest := by
  rw [tokens_eq, tokens_eq] at same
  cases negated : filter.negate with
  | true =>
      cases otherNegated : other.negate with
      | true =>
          simp only [negated, otherNegated, ↓reduceIte, append_assoc] at same
          obtain ⟨conditions, closings⟩ :=
            cut _ _ (closed_parenthesis rest) (closed_parenthesis otherRest)
              (append_cancel_left same)
          exact ⟨rfl, conditions, append_cancel_left closings⟩
      | false =>
          simp only [negated, otherNegated, ↓reduceIte, append_assoc,
            Bool.false_eq_true] at same
          exact absurd same.symm (otherReadable.conditionTokens_ne_not _ _)
  | false =>
      cases otherNegated : other.negate with
      | true =>
          simp only [negated, otherNegated, ↓reduceIte, append_assoc,
            Bool.false_eq_true] at same
          exact absurd same (readable.conditionTokens_ne_not _ _)
      | false =>
          simp only [negated, otherNegated, Bool.false_eq_true,
            ↓reduceIte] at same
          exact ⟨rfl, cut _ _ closed otherClosed same⟩

/-- Two predicates of operands are cut off alike. -/
theorem asks_cancel
    {column otherColumn : Operand}
    {predicate otherPredicate : Predicate}
    {negate otherNegate : Bool}
    (columnReadable : column.IsReadable)
    (otherColumnReadable : otherColumn.IsReadable)
    (readable : ∀ operand ∈ predicate.operands, operand.IsReadable)
    (otherReadable : ∀ operand ∈ otherPredicate.operands, operand.IsReadable)
    (rest otherRest : List Token)
    (closed : Closed rest)
    (otherClosed : Closed otherRest)
    (same :
      (predicate.filter column negate).conditionTokens dialect ++ rest =
        (otherPredicate.filter otherColumn otherNegate).conditionTokens dialect
          ++ otherRest) :
    (column.canonical = otherColumn.canonical ∧
      predicate.canonical = otherPredicate.canonical) ∧ rest = otherRest := by
  rw [conditionTokens_asks, conditionTokens_asks, append_assoc, append_assoc,
    append_assoc, append_assoc] at same
  obtain ⟨sameColumn, keywords⟩ :=
    columnReadable.tokens_cancel otherColumnReadable
      (predicate.keyword.startsWithStop _)
      (otherPredicate.keyword.startsWithStop _) same
  obtain ⟨sameKeyword, arguments⟩ :=
    Keyword.prefixFree_text.word_cancel (Keyword.mem_all _)
      (Keyword.mem_all _) keywords
  obtain ⟨samePredicate, rests⟩ :=
    Predicate.arguments_cancel readable otherReadable sameKeyword closed
      otherClosed arguments
  exact ⟨⟨sameColumn, samePredicate⟩, rests⟩

/-- Two connectives are cut off alike if the filters under them are. -/
theorem connects_cancel
    {operator otherOperator : LogicalOp}
    {children otherChildren : List Filter}
    {negate otherNegate : Bool}
    (nonempty : children ≠ [])
    (otherNonempty : otherChildren ≠ [])
    (cut :
      ∀ child ∈ children, ∀ other ∈ otherChildren, ∀ rest otherRest,
        Closed rest → Closed otherRest →
        child.tokens dialect ++ rest = other.tokens dialect ++ otherRest →
        child.canonical = other.canonical ∧ rest = otherRest)
    (rest otherRest : List Token)
    (same :
      (Filter.logical (some operator) (some children) negate).conditionTokens
          dialect ++ rest =
        (Filter.logical (some otherOperator) (some otherChildren)
          otherNegate).conditionTokens dialect ++ otherRest) :
    (children.map canonical = otherChildren.map canonical ∧
      (children.length = 1 ∨ operator = otherOperator)) ∧
      rest = otherRest := by
  have ends
      (operator : LogicalOp)
      (rest otherRest : List Token) :
      word ")" ++ rest ≠ word operator.separator ++ otherRest := by
    intro same
    cases operator <;> cases same
  rw [conditionTokens_connects, conditionTokens_connects, append_assoc,
    append_assoc, append_assoc, append_assoc] at same
  -- Each child carries its own closing parenthesis, so it may be followed by anything.
  obtain ⟨sameChildren, closings, sameSeparator⟩ :=
    intercalate_cancel
      (fun child : Filter => word "(" ++ (child.tokens dialect ++ word ")"))
      canonical (fun _ => True)
      (by
        intro child member other otherMember rest otherRest _ _ same
        rw [append_assoc, append_assoc, append_assoc, append_assoc] at same
        obtain ⟨sameChild, closings⟩ :=
          cut child member other otherMember _ _ (closed_parenthesis rest)
            (closed_parenthesis otherRest) (append_cancel_left same)
        exact ⟨sameChild, append_cancel_left closings⟩)
      (fun _ => trivial) (fun _ => trivial)
      (by
        intro rest otherRest separators
        obtain ⟨rfl, rests⟩ :=
          LogicalOp.prefixFree_separator.word_cancel (LogicalOp.mem_all _)
            (LogicalOp.mem_all _) separators
        exact ⟨rfl, rests⟩)
      trivial trivial
      (fun other => ends otherOperator rest other)
      (fun other => (ends operator otherRest other).symm)
      nonempty otherNonempty (append_cancel_left same)
  refine ⟨⟨sameChildren, ?_⟩, append_cancel_left closings⟩
  rcases sameSeparator with single | sameSeparator
  · exact Or.inl single
  · have words :
        word operator.separator ++ [] = word otherOperator.separator ++ [] := by
      rw [sameSeparator]
    exact Or.inr
      (LogicalOp.prefixFree_separator.word_cancel (LogicalOp.mem_all _)
        (LogicalOp.mem_all _) words).1

/-- A readable filter is told apart from what closes it off, up to its canonical form. -/
theorem IsReadable.tokens_cancel
    {filter other : Filter}
    (readable : filter.IsReadable)
    (otherReadable : other.IsReadable)
    {rest otherRest : List Token}
    (closed : Closed rest)
    (otherClosed : Closed otherRest)
    (same : filter.tokens dialect ++ rest = other.tokens dialect ++ otherRest) :
    filter.canonical = other.canonical ∧ rest = otherRest := by
  -- Of two filters that start alike, either both are connectives or both are predicates.
  induction readable generalizing other rest otherRest with
  | @asks column predicate negate columnReadable operandsReadable =>
      have readable : (predicate.filter column negate).IsReadable :=
        .asks predicate negate columnReadable operandsReadable
      cases otherReadable with
      | @asks otherColumn otherPredicate otherNegate otherColumnReadable
          otherOperandsReadable =>
          obtain ⟨sameNegate, ⟨sameColumn, samePredicate⟩, rests⟩ :=
            negation_cancel readable
              (.asks otherPredicate otherNegate otherColumnReadable
                otherOperandsReadable)
              (asks_cancel columnReadable otherColumnReadable
                operandsReadable otherOperandsReadable)
              closed otherClosed same
          rw [Predicate.negate_filter, Predicate.negate_filter] at sameNegate
          rw [Predicate.canonical_filter, Predicate.canonical_filter,
            sameColumn, samePredicate, sameNegate]
          exact ⟨rfl, rests⟩
      | connects operator otherNegate childrenReadable =>
          obtain ⟨_, impossible, _⟩ : _ ∧ False ∧ _ :=
            negation_cancel readable
              (.connects operator otherNegate childrenReadable)
              (fun _ _ _ _ conditions =>
                (asks_ne_connects columnReadable _ _ _ _ _ _ _
                  conditions).elim)
              closed otherClosed same
          exact impossible.elim
  | @connects operator child children negate childrenReadable
      inductionHypothesis =>
      have readable :
          (Filter.logical (some operator) (some (child :: children))
            negate).IsReadable :=
        .connects operator negate childrenReadable
      cases otherReadable with
      | @asks otherColumn otherPredicate otherNegate otherColumnReadable
          otherOperandsReadable =>
          obtain ⟨_, impossible, _⟩ : _ ∧ False ∧ _ :=
            negation_cancel readable
              (.asks otherPredicate otherNegate otherColumnReadable
                otherOperandsReadable)
              (fun _ _ _ _ conditions =>
                (asks_ne_connects otherColumnReadable _ _ _ _ _ _ _
                  conditions.symm).elim)
              closed otherClosed same
          exact impossible.elim
      | @connects otherOperator otherChild otherChildren otherNegate
          otherChildrenReadable =>
          obtain ⟨sameNegate, ⟨sameChildren, sameOperator⟩, rests⟩ :=
            negation_cancel readable
              (.connects otherOperator otherNegate otherChildrenReadable)
              (fun rest otherRest _ _ =>
                connects_cancel (cons_ne_nil child children)
                  (cons_ne_nil otherChild otherChildren)
                  (fun part member other otherMember _ _ closed otherClosed =>
                    inductionHypothesis part member
                      (otherChildrenReadable other otherMember) closed
                      otherClosed)
                  rest otherRest)
              closed otherClosed same
          refine ⟨?_, rests⟩
          have sameLength := congrArg length sameChildren
          rw [length_map, length_map] at sameLength
          have negates : negate = otherNegate := sameNegate
          rw [canonical, canonical, canonicalChildren_eq_map,
            canonicalChildren_eq_map, sameChildren, sameLength, negates]
          rcases sameOperator with single | rfl
          · rw [sameLength] at single
            simp [single]
          · rfl

end Filter

end

/-! ## From the text -/

/-- What a filter that is written is understood as. -/
theorem Filter.tokens_text
    {dialect : Dialect}
    {clause : Clause}
    {filter : Filter}
    {text : String}
    (written :
      (filter.rendering clause).result.map (Piece.write dialect) = .ok text) :
    (filter.rendering clause).failure = none ∧
      Sql.tokens dialect text = filter.tokens dialect := by
  unfold Rendering.result at written
  cases outcome : (filter.rendering clause).failure with
  | some error =>
      rw [outcome] at written
      cases written
  | none =>
      rw [outcome] at written
      have isText :
          Piece.write dialect (filter.rendering clause).pieces = text :=
        Except.ok.inj written
      refine ⟨rfl, ?_⟩
      rw [← isText, tokens_write dialect (filter.tidy_rendering clause),
        filter.rendering_eq_of outcome]
      rfl

/-- The text of a filter determines the filter, if its constants are nothing, integers and texts:
two filters with the same text are the same up to empty qualifiers and the operators of
connectives over a single filter. -/
theorem Filter.canonical_eq_of_text_eq
    {dialect : Dialect}
    {clause otherClause : Clause}
    {filter other : Filter}
    (simple : filter.HasSimpleLiterals)
    (otherSimple : other.HasSimpleLiterals)
    {text : String}
    (written :
      (filter.rendering clause).result.map (Piece.write dialect) = .ok text)
    (otherWritten :
      (other.rendering otherClause).result.map (Piece.write dialect) =
        .ok text) :
    filter.canonical = other.canonical := by
  obtain ⟨succeeds, tokens⟩ := tokens_text written
  obtain ⟨otherSucceeds, otherTokens⟩ := tokens_text otherWritten
  have same : filter.tokens dialect ++ [] = other.tokens dialect ++ [] := by
    rw [← tokens, otherTokens]
  exact ((isReadable_of_written simple succeeds).tokens_cancel
    (isReadable_of_written otherSimple otherSucceeds) .nil .nil same).1

/-- A connective over one filter that may have an empty qualifier. -/
def Filter.lone (operator : LogicalOp) (table : Option String) : Filter :=
  .logical (some operator)
    (some [.comparison (some (.column table (some "state"))) (some .eq)
      (some (.literal (.text "open"))) true])
    false

theorem Filter.canonical_eq_of_text_eq_lone :
    (Filter.lone .and none).canonical =
      (Filter.lone .or (some "")).canonical := by
  have simple
      (operator : LogicalOp)
      (table : Option String) :
      (Filter.lone operator table).HasSimpleLiterals := by
    simp [HasSimpleLiterals, lone, operands, childOperands, Operand.isSimple]
  have written :
      ((Filter.lone .and none).rendering .condition).result.map
          (Piece.write .postgres) =
        .ok "((NOT (\"state\" = 'open')))" := rfl
  have otherWritten :
      ((Filter.lone .or (some "")).rendering .having).result.map
          (Piece.write .postgres) =
        .ok "((NOT (\"state\" = 'open')))" := rfl
  exact canonical_eq_of_text_eq (simple _ _) (simple _ _) written otherWritten

end QueryGateway
