import QueryGateway.Proofs.FilterTree
import QueryGateway.Proofs.LiteralPieces

/-!
# Every query is written from tidy pieces

Between two operands, two items or two clauses a separator is always written,
so the pieces of a rendering are tidy whatever names, contents and numbers
stand in it.  Only an expression that its author wrote in SQL has to be plain
by itself.

Tidiness does not depend on success: what was written up to a failure is tidy
too, so no lemma here asks whether a rendering failed.
-/

namespace QueryGateway

open List Sql

/-! ## Expressions -/

/-- An expression without a mark of a quoted token, a colon and the start of a comment. -/
def IsPlainExpression (expression : String) : Prop :=
  (∀ c ∈ expression.toList,
    c ≠ '\'' ∧ c ≠ '"' ∧ c ≠ '\x60' ∧ c ≠ ':') ∧
  ¬ ['-', '-'] <:+: expression.toList ∧
  ¬ ['/', '*'] <:+: expression.toList

/-- Every expression that a query selects is plain. -/
def VisualQuery.ExpressionsArePlain (query : VisualQuery) : Prop :=
  ∀ item ∈ query.columns, ∀ expression,
    item.expression = some expression → IsPlainExpression expression

/-- A plain expression is calm text. -/
theorem IsPlainExpression.calm
    {expression : String}
    (plain : IsPlainExpression expression) :
    Calm expression.toList := by
  obtain ⟨noMark, noLineComment, noBlockComment⟩ := plain
  refine ⟨fun c member => ?_, ?_⟩
  · obtain ⟨notApostrophe, notQuotation, notBacktick, notColon⟩ :=
      noMark c member
    simp [isBareChar, notApostrophe, notQuotation, notBacktick, notColon]
  · apply (isChain_isInfix expression.toList).imp
    intro first second neighbours
    by_contra opens
    simp only [opensComment, Bool.not_eq_false, Bool.or_eq_true,
      Bool.and_eq_true, decide_eq_true_eq] at opens
    rcases opens with ⟨rfl, rfl⟩ | ⟨rfl, rfl⟩
    · exact noLineComment neighbours
    · exact noBlockComment neighbours

/-! ## Putting renderings together -/

namespace Rendering

/-- The pieces written by a rendering are tidy, up to a failure if there is one. -/
def Tidy (rendering : Rendering) : Prop :=
  Piece.Tidy rendering.pieces

namespace Tidy

/-- A failure leaves nothing behind that could run into its surroundings. -/
theorem fail
    (error : CompileError) :
    (Rendering.fail error).Tidy :=
  Piece.Tidy.nil

/-- Bare text is tidy where it reads as itself. -/
theorem bare
    {text : String}
    (sound : (Piece.bare text).Sound) :
    (Rendering.bare text).Tidy :=
  Piece.Tidy.singleton sound

/-- Tidy renderings one after the other are tidy if a separator stands where they meet. -/
theorem append
    {first second : Rendering}
    (firstTidy : first.Tidy)
    (secondTidy : second.Tidy)
    (meeting :
      ∀ x ∈ first.pieces.getLast?, ∀ y ∈ second.pieces.head?,
        Piece.Fits x y) :
    (first ++ second).Tidy := by
  unfold Tidy
  cases outcome : first.failure with
  | none =>
      rw [pieces_append_of_ok second outcome]
      exact Piece.Tidy.append firstTidy secondTidy meeting
  | some error =>
      rw [append_of_failure second outcome]
      exact firstTidy

/-- A failure adds no piece. -/
theorem append_fail
    {rendering : Rendering}
    (tidy : rendering.Tidy)
    (error : CompileError) :
    (rendering ++ Rendering.fail error).Tidy :=
  append tidy (fail error) (by simp [Rendering.fail])

/-- A rendering that writes nothing leaves the one after it tidy. -/
theorem after_nothing
    {first second : Rendering}
    (tidy : second.Tidy)
    (nothing : first.pieces = []) :
    (first ++ second).Tidy := by
  refine append ?_ tidy (by simp [nothing])
  unfold Tidy
  rw [nothing]
  exact .nil

/-- A tidy rendering may stand behind bare text that ends with a separator. -/
theorem after
    {text : String}
    (opens : Piece.Opens text)
    {rendering : Rendering}
    (tidy : rendering.Tidy) :
    (Rendering.bare text ++ rendering).Tidy := by
  apply append (bare opens.sound) tidy
  intro x last y _
  simp only [Rendering.bare, of, getLast?_singleton, Option.mem_some_iff] at last
  exact Or.inl (last ▸ opens.ends)

/-- A tidy rendering may stand before bare text that starts with a separator. -/
theorem before
    {text : String}
    (closes : Piece.Closes text)
    {rendering : Rendering}
    (tidy : rendering.Tidy) :
    (rendering ++ Rendering.bare text).Tidy := by
  apply append tidy (bare closes.sound)
  intro x _ y next
  simp only [Rendering.bare, of, head?_cons, Option.mem_some_iff] at next
  exact Or.inr (next ▸ closes.starts)

/-- Bare text at the front is the first piece. -/
theorem head?_bare_append
    (text : String)
    (rendering : Rendering) :
    (Rendering.bare text ++ rendering).pieces.head? = some (.bare text) := by
  rw [pieces_append_of_ok rendering rfl]
  rfl

/-- Tidy renderings may stand on both sides of a dividing text. -/
theorem divided
    {text : String}
    (divides : Piece.Divides text)
    {first second : Rendering}
    (firstTidy : first.Tidy)
    (secondTidy : second.Tidy) :
    (first ++ Rendering.bare text ++ second).Tidy := by
  rw [append_assoc]
  apply append firstTidy (after divides.toOpens secondTidy)
  intro x _ y next
  rw [head?_bare_append, Option.mem_some_iff] at next
  exact Or.inr (next ▸ divides.starts)

/-- A tidy rendering may stand between parentheses, the first one at the end of a text. -/
theorem parenthesised
    {opening : String}
    (opens : Piece.Opens opening)
    {inner : Rendering}
    (tidy : inner.Tidy) :
    (Rendering.between opening inner ")").Tidy :=
  before Piece.closes_parenthesis (after opens tidy)

/-- Tidy renderings with a dividing text between each two are tidy. -/
theorem joined
    {separator : String}
    (divides : Piece.Divides separator)
    {renderings : List Rendering}
    (tidy : ∀ rendering ∈ renderings, rendering.Tidy) :
    (Rendering.joined separator renderings).Tidy := by
  induction renderings with
  | nil =>
      exact Piece.Tidy.nil
  | cons rendering rest inductionHypothesis =>
      have firstTidy := tidy rendering (by simp)
      have restTidy := inductionHypothesis fun other member =>
        tidy other (by simp [member])
      cases rest with
      | nil =>
          exact firstTidy
      | cons next rest =>
          exact firstTidy.divided divides restTidy

end Tidy

end Rendering

/-- The sign of a comparison between blanks keeps its operands apart. -/
theorem ComparisonOp.symbol_divides
    (operator : ComparisonOp) :
    Piece.Divides (" " ++ operator.symbol ++ " ") := by
  cases operator <;> decide

/-- The name of a connective between blanks keeps its filters apart. -/
theorem LogicalOp.name_divides
    (operator : LogicalOp) :
    Piece.Divides (" " ++ operator.name ++ " ") := by
  cases operator <;> decide

/-! ## References -/

namespace Sql

/-- What is quoted is tidy, whatever it holds. -/
theorem Piece.Tidy.quoted
    (kind : QuoteKind)
    (content : String) :
    Piece.Tidy [.quoted kind content] :=
  .singleton trivial

/-- Sound text behind sound text that ends with a separator is sound. -/
theorem Piece.sound_append
    {first second : String}
    (opens : Piece.Opens first)
    (secondSound : (Piece.bare second).Sound) :
    (Piece.bare (first ++ second)).Sound := by
  refine ⟨by simp [opens.sound.1], ?_⟩
  rw [String.toList_append]
  apply opens.sound.2.append secondSound.2
  intro c last d _
  have isLast : first.toList.getLast? = some c := last
  have separator : isSeparator c = true := by
    simpa [Piece.endsApart, isLast] using opens.ends
  exact ((separator_cases separator).2.2 d).1

/-- A qualified name is tidy. -/
theorem tidy_qualified
    (qualifier : Option String)
    (name : String) :
    Piece.Tidy (qualified qualifier name) := by
  have divides : Piece.Divides "." := by decide
  unfold qualified
  split
  · exact .quoted .identifier name
  · exact .quoted .identifier name
  · rename_i qualifier _
    exact (Piece.Tidy.quoted .identifier qualifier).divided divides
      (.quoted .identifier name)

/-- Tidy pieces stay tidy under a new name. -/
theorem tidy_append_aliased
    {pieces : List Piece}
    (tidy : Piece.Tidy pieces)
    (name : Option String) :
    Piece.Tidy (pieces ++ aliased name) := by
  have divides : Piece.Divides " AS " := by decide
  unfold aliased
  split
  · simpa using tidy
  · simpa using tidy
  · rename_i name _
    exact tidy.divided divides (.quoted .identifier name)

/-- A reference to a column is tidy. -/
theorem tidy_columnReference
    (table : Option String)
    (column : String) :
    Piece.Tidy (columnReference table column) :=
  tidy_qualified table column

/-- A reference to a table is tidy. -/
theorem tidy_tableReference
    (schema : Option String)
    (table : String)
    (name : Option String) :
    Piece.Tidy (tableReference schema table name) :=
  tidy_append_aliased (tidy_qualified schema table) name

/-- The clause of bounds that are written soundly is tidy. -/
theorem tidy_writtenLimitClause
    (dialect : Dialect)
    {limit offset : Option String}
    (limitSound : ∀ written ∈ limit, (Piece.bare written).Sound)
    (offsetSound : ∀ written ∈ offset, (Piece.bare written).Sound) :
    Piece.Tidy (writtenLimitClause dialect limit offset) := by
  have divides : Piece.Divides " " := by decide
  unfold writtenLimitClause
  dsimp only
  apply Piece.Tidy.joined divides
  intro pieces member
  simp only [mem_append, Option.mem_toList,
    Option.map_eq_some_iff] at member
  rcases member with ⟨written, isLimit, rfl⟩ | ⟨written, isOffset, rfl⟩
  · apply Piece.Tidy.singleton
    apply Piece.sound_append (by decide)
    split at isLimit
    · simp only [Option.some.injEq] at isLimit
      exact isLimit ▸ Numeral.ofInt_sound unboundedLimit
    · exact limitSound written isLimit
  · apply Piece.Tidy.singleton
    exact Piece.sound_append (by decide) (offsetSound written isOffset)

/-- The clause of the bounds is tidy. -/
theorem tidy_limitClause
    (dialect : Dialect)
    (limit offset : Option Int) :
    Piece.Tidy (limitClause dialect limit offset) := by
  have sound (bound : Option Int) :
      ∀ written ∈ bound.map Numeral.ofInt, (Piece.bare written).Sound := by
    intro written member
    obtain ⟨bound, _, rfl⟩ := Option.map_eq_some_iff.mp member
    exact Numeral.ofInt_sound bound
  exact tidy_writtenLimitClause dialect (sound _) (sound _)

end Sql

/-! ## Operands and filters -/

/-- A value is written in tidy pieces without a placeholder, or it is refused. -/
theorem Rendering.ofLiteral_cases
    (clause : Clause)
    (value : Value) :
    (∃ error, ofLiteral clause value = fail error) ∨
    (∃ pieces, ofLiteral clause value = of pieces ∧
      Piece.Tidy pieces ∧ pieces.filterMap Piece.name? = []) := by
  have outcome := literal_outcome value
  unfold ofLiteral
  generalize literal value = result at outcome
  cases outcome with
  | written _ _ tidy noNames =>
      exact Or.inr ⟨_, rfl, tidy, noNames⟩
  | unsupported _ =>
      exact Or.inl ⟨_, rfl⟩
  | longInteger _ =>
      exact Or.inl ⟨_, rfl⟩

/-- A literal of a filter is tidy. -/
theorem Rendering.tidy_ofLiteral
    (clause : Clause)
    (value : Value) :
    (Rendering.ofLiteral clause value).Tidy := by
  rcases ofLiteral_cases clause value with
    ⟨error, refused⟩ | ⟨pieces, written, tidy, _⟩
  · rw [refused]
    exact .fail error
  · rw [written]
    exact tidy

/-- An operand is tidy. -/
theorem Operand.tidy_rendering
    (clause : Clause)
    (operand : Operand) :
    (operand.rendering clause).Tidy := by
  rcases operand.rendering_cases clause with
    ⟨error, refused⟩ | ⟨table, name, _, written⟩ | ⟨value, _, written⟩ |
      ⟨name, _, valid, written⟩
  · rw [refused]
    exact .fail error
  · rw [written]
    exact tidy_columnReference table name
  · rw [written]
    exact Rendering.tidy_ofLiteral clause value
  · rw [written]
    exact Piece.Tidy.singleton valid

/-- An operand that may be missing is tidy. -/
theorem tidy_renderOperand
    (clause : Clause)
    (operand : Option Operand) :
    (renderOperand clause operand).Tidy := by
  cases operand with
  | none =>
      exact .fail _
  | some operand =>
      exact operand.tidy_rendering clause

/-- The negation of a tidy condition is tidy. -/
theorem tidy_renderNegation
    (negate : Bool)
    {condition : Rendering}
    (tidy : condition.Tidy) :
    (renderNegation negate condition).Tidy := by
  unfold renderNegation
  split
  · exact tidy.parenthesised (by decide)
  · exact tidy

/-- Filters between parentheses are tidy with a dividing text between each two. -/
theorem tidy_joined_parenthesised
    (clause : Clause)
    {separator : String}
    (divides : Piece.Divides separator)
    {filters : List Filter}
    (tidy : ∀ filter ∈ filters, (filter.rendering clause).Tidy) :
    (Rendering.joined separator
      (filters.map fun filter =>
        .between "(" (filter.rendering clause) ")")).Tidy := by
  apply Rendering.Tidy.joined divides
  intro rendering member
  obtain ⟨filter, isFilter, rfl⟩ := mem_map.mp member
  exact (tidy filter isFilter).parenthesised Piece.opens_parenthesis

/-- Every filter is written from tidy pieces. -/
theorem Filter.tidy_rendering
    (clause : Clause)
    (filter : Filter) :
    (filter.rendering clause).Tidy := by
  induction filter with
  | comparison left operator right negate =>
      apply tidy_renderNegation
      unfold Filter.condition
      cases operator with
      | none =>
          exact .fail _
      | some operator =>
          exact (tidy_renderOperand clause left).divided operator.symbol_divides
            (tidy_renderOperand clause right)
  | childless operator negate =>
      apply tidy_renderNegation
      cases operator <;> exact .fail _
  | logical operator children negate inductionHypothesis =>
      apply tidy_renderNegation
      cases operator with
      | none =>
          exact .fail _
      | some operator =>
          cases children with
          | nil =>
              exact .fail _
          | cons child children =>
              rw [condition_logical]
              exact (tidy_joined_parenthesised clause operator.name_divides
                inductionHypothesis).parenthesised Piece.opens_parenthesis
  | membership column values negate =>
      apply tidy_renderNegation
      have columnTidy := tidy_renderOperand clause column
      cases values with
      | none =>
          exact columnTidy.append_fail _
      | some values =>
          cases values with
          | nil =>
              exact columnTidy.append_fail _
          | cons value values =>
              rw [condition_membership]
              have inner :
                  (Rendering.joined itemSeparator
                    ((value :: values).map (Operand.rendering clause))).Tidy := by
                apply Rendering.Tidy.joined itemSeparator_divides
                intro rendering member
                obtain ⟨operand, _, rfl⟩ := mem_map.mp member
                exact operand.tidy_rendering clause
              have divides : Piece.Divides " IN (" := by decide
              rw [Rendering.between, ← Rendering.append_assoc,
                ← Rendering.append_assoc]
              exact (columnTidy.divided divides inner).before
                Piece.closes_parenthesis
  | between column low high negate =>
      apply tidy_renderNegation
      have betweenDivides : Piece.Divides " BETWEEN " := by
        decide
      have andDivides : Piece.Divides " AND " := by
        decide
      exact ((tidy_renderOperand clause column).divided betweenDivides
        (tidy_renderOperand clause low)).divided andDivides
          (tidy_renderOperand clause high)
  | isNull column negate =>
      apply tidy_renderNegation
      exact (tidy_renderOperand clause column).before (by decide)
  | isNotNull column negate =>
      apply tidy_renderNegation
      exact (tidy_renderOperand clause column).before (by decide)
  | like column pattern negate =>
      apply tidy_renderNegation
      have columnTidy := tidy_renderOperand clause column
      cases pattern with
      | none =>
          exact columnTidy.append_fail _
      | some pattern =>
          have divides : Piece.Divides " LIKE " := by
            decide
          exact columnTidy.divided divides (Piece.Tidy.quoted .text pattern)

/-- The filters of a clause are tidy. -/
theorem tidy_renderFilters
    (clause : Clause)
    (filters : List Filter) :
    (renderFilters clause filters).Tidy := by
  have divides : Piece.Divides " AND " := by decide
  unfold renderFilters
  split
  · rename_i filter
    exact filter.tidy_rendering clause
  · exact tidy_joined_parenthesised clause divides
      fun filter _ => filter.tidy_rendering clause

/-! ## Clauses -/

/-- A selected item is tidy if its expression, if it has one, is plain. -/
theorem SelectColumn.tidy_rendering
    {item : SelectColumn}
    (plain :
      ∀ expression, item.expression = some expression →
        IsPlainExpression expression) :
    item.rendering.Tidy := by
  unfold SelectColumn.rendering
  split
  · exact .fail _
  · rename_i expression isExpression _
    split
    · exact .fail _
    · rename_i notBlank
      have nonempty : expression.toList ≠ [] := by
        intro empty
        simp [Text.isBlankText, empty] at notBlank
      have sound : (Piece.raw expression).Sound :=
        ⟨nonempty, (plain expression isExpression).calm⟩
      exact tidy_append_aliased (Piece.Tidy.singleton sound) item.label
  · exact .fail _
  · exact tidy_append_aliased (tidy_columnReference _ _) _

/-- A selection of plain expressions is tidy. -/
theorem tidy_renderSelect
    (distinct : Bool)
    {columns : List SelectColumn}
    (plain :
      ∀ item ∈ columns, ∀ expression,
        item.expression = some expression → IsPlainExpression expression) :
    (renderSelect distinct columns).Tidy := by
  unfold renderSelect
  split
  · exact .fail _
  · have items :
        (Rendering.joined itemSeparator
          (columns.map SelectColumn.rendering)).Tidy := by
      apply Rendering.Tidy.joined itemSeparator_divides
      intro rendering member
      obtain ⟨item, isItem, rfl⟩ := mem_map.mp member
      exact SelectColumn.tidy_rendering (plain item isItem)
    cases distinct with
    | true =>
        exact Rendering.Tidy.after (by decide) items
    | false =>
        exact Rendering.Tidy.after (by decide) items

/-- A source is tidy. -/
theorem TableRef.tidy_rendering
    (source : TableRef) :
    source.rendering.Tidy := by
  unfold TableRef.rendering
  split
  · exact .fail _
  · exact Rendering.Tidy.after (by decide)
      (tidy_tableReference _ _ _)

/-- A join is tidy. -/
theorem Join.tidy_rendering
    (dialect : Dialect)
    (join : Join) :
    (join.rendering dialect).Tidy := by
  have table :
      (Rendering.bare (join.kind.keyword ++ " ") ++
        .of (tableReference join.schema join.table join.label)).Tidy := by
    cases join.kind <;>
      exact Rendering.Tidy.after (by decide)
        (tidy_tableReference _ _ _)
  have divides : Piece.Divides " ON " := by decide
  rcases join.rendering_cases dialect with
    ⟨error, refused⟩ | ⟨_, written⟩ | ⟨condition, _, written⟩
  · rw [refused]
    exact .fail error
  · rw [written]
    exact table
  · rw [written]
    exact table.divided divides (condition.tidy_rendering .join)

/-- A grouping is tidy. -/
theorem tidy_renderGroupBy
    (columns : List ColumnRef) :
    (renderGroupBy columns).Tidy := by
  apply Rendering.Tidy.after (by decide)
  apply Rendering.Tidy.joined itemSeparator_divides
  intro rendering member
  obtain ⟨item, _, rfl⟩ := mem_map.mp member
  exact tidy_columnReference item.table item.column

/-- An ordered item is tidy. -/
theorem OrderItem.tidy_rendering
    (item : OrderItem) :
    item.rendering.Tidy := by
  unfold OrderItem.rendering
  cases item.direction <;>
    exact Rendering.Tidy.before (by decide)
      (tidy_columnReference item.table item.column)

/-- An ordering is tidy. -/
theorem tidy_renderOrderBy
    (items : List OrderItem) :
    (renderOrderBy items).Tidy := by
  apply Rendering.Tidy.after (by decide)
  apply Rendering.Tidy.joined itemSeparator_divides
  intro rendering member
  obtain ⟨item, _, rfl⟩ := mem_map.mp member
  exact item.tidy_rendering

/-- A check of a bound writes nothing. -/
theorem pieces_checkSign
    (clause : Clause)
    (negative : Int → QueryFault)
    (bound : Option Int) :
    (checkSign clause negative bound).pieces = [] := by
  unfold checkSign
  split
  · rfl
  · split
    · rfl
    · split <;> rfl

/-- The bounds of the rows are tidy. -/
theorem tidy_renderBounds
    (dialect : Dialect)
    (limit offset : Option Int) :
    (renderBounds dialect limit offset).Tidy := by
  have written : (writeBounds dialect limit offset).Tidy := by
    unfold writeBounds
    split
    · exact tidy_limitClause dialect limit offset
    · exact .fail _
  unfold renderBounds
  rw [Rendering.append_assoc]
  exact (written.after_nothing (pieces_checkSign _ _ offset)).after_nothing
    (pieces_checkSign _ _ limit)

/-! ## Queries -/

/-- Every query with plain expressions is written from tidy pieces. -/
theorem VisualQuery.tidy_rendering
    (dialect : Dialect)
    {query : VisualQuery}
    (plain : query.ExpressionsArePlain) :
    (query.rendering dialect).Tidy := by
  have divides : Piece.Divides "\n" := by decide
  apply Rendering.Tidy.joined divides
  intro clause member
  simp only [clauses, boundsClause, mem_append, mem_cons, mem_map,
    mem_clauseUnless, not_mem_nil, or_false] at member
  rcases member with
    (((((((rfl | rfl) | ⟨join, _, rfl⟩) | ⟨_, rfl⟩) | ⟨_, rfl⟩) |
      ⟨_, rfl⟩) | ⟨_, rfl⟩) | ⟨_, rfl⟩)
  · exact tidy_renderSelect query.distinct plain
  · exact query.source.tidy_rendering
  · exact join.tidy_rendering dialect
  · exact (tidy_renderFilters .condition query.filters).after (by decide)
  · exact tidy_renderGroupBy query.groupBy
  · exact (tidy_renderFilters .having query.having).after (by decide)
  · exact tidy_renderOrderBy query.orderBy
  · exact tidy_renderBounds dialect query.limit query.offset

end QueryGateway
