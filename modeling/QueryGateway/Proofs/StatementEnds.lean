import QueryGateway.Proofs.LiteralPieces
import QueryGateway.Proofs.WellFormedQueries
import QueryGateway.Proofs.WrittenPieces
import QueryGateway.Sql.RowCap

/-!
# How a statement starts and ends

A statement that is written from a query starts with its first keyword, and its
last clause ends with a quoted token, a number, a parenthesis or a word.  So
there is nothing to trim at either end.
-/

namespace QueryGateway

open List Sql

/-! ## Firm ends -/

namespace Sql

/-- Whether a character is left alone where the end of a statement is trimmed. -/
def isFirmChar (c : Char) : Bool :=
  !Text.isBlank c && !isTrailing c

/-- A visible character of ASCII other than a semicolon is left alone. -/
theorem isFirmChar_of_visible
    {c : Char}
    (visible : 0x21 ≤ c.toNat ∧ c.toNat ≤ 0x7e)
    (noSemicolon : c ≠ ';') :
    isFirmChar c = true := by
  have noBlank : Text.isBlank c = false := by
    simp only [Text.isBlank, Bool.or_eq_false_iff, Bool.and_eq_false_iff,
      decide_eq_false_iff_not]
    omega
  have unlike
      (other : Char)
      (invisible : other.toNat < 0x21) :
      c ≠ other := by
    rintro rfl
    omega
  simp [isFirmChar, noBlank, isTrailing, noSemicolon, unlike ' ' (by decide),
    unlike '\t' (by decide), unlike '\r' (by decide), unlike '\n' (by decide)]

/-- A character of a name ends a statement firmly. -/
theorem isFirmChar_of_nameChar
    {c : Char}
    (isPart : isNameChar c = true) :
    isFirmChar c = true := by
  apply isFirmChar_of_visible
  · delta isNameChar Char.isAlphanum Char.isAlpha Char.isUpper Char.isLower
      Char.isDigit at isPart
    simp only [Bool.or_eq_true, Bool.and_eq_true, decide_eq_true_eq, ge_iff_le,
      UInt32.le_iff_toNat_le] at isPart
    change
      (((65 ≤ c.toNat ∧ c.toNat ≤ 90) ∨ (97 ≤ c.toNat ∧ c.toNat ≤ 122)) ∨
        (48 ≤ c.toNat ∧ c.toNat ≤ 57)) ∨ c = '_' at isPart
    rcases isPart with ranges | rfl
    · omega
    · decide
  · rintro rfl
    exact absurd isPart (by decide)

/-- A character of a number ends a statement firmly. -/
theorem isFirmChar_of_quiet
    {c : Char}
    (quiet : isQuietChar c = true) :
    isFirmChar c = true := by
  simp only [isQuietChar, Bool.or_eq_true, decide_eq_true_eq] at quiet
  rcases quiet with (((digit | rfl) | rfl) | rfl) | rfl
  · exact isFirmChar_of_nameChar (by simp [isNameChar, Char.isAlphanum, digit])
  all_goals decide

namespace Piece

/-- Whether a piece ends with a character that is left alone where a statement is trimmed. -/
def isFirm : Piece → Bool
  | .bare text => text.toList.getLast?.any isFirmChar
  | .truth _ | .quoted _ _ | .placeholder _ => true
  | .raw _ => false

/-- Pieces of which the last is firm. -/
def FirmlyEnded (pieces : List Piece) : Prop :=
  ∃ last ∈ pieces.getLast?, last.isFirm = true

namespace FirmlyEnded

/-- A piece that ends firmly does so alone. -/
theorem singleton
    {piece : Piece}
    (firm : piece.isFirm = true) :
    FirmlyEnded [piece] :=
  ⟨piece, rfl, firm⟩

/-- What ends firmly does so after anything. -/
theorem append
    {second : List Piece}
    (firm : FirmlyEnded second)
    (first : List Piece) :
    FirmlyEnded (first ++ second) := by
  obtain ⟨last, isLast, lastFirm⟩ := firm
  exact ⟨last, by rw [getLast?_append, isLast]; rfl, lastFirm⟩

/-- What ends firmly does so after a piece. -/
theorem cons
    {rest : List Piece}
    (firm : FirmlyEnded rest)
    (piece : Piece) :
    FirmlyEnded (piece :: rest) :=
  firm.append [piece]

/-- A closing parenthesis ends firmly. -/
theorem closed
    (first : List Piece) :
    FirmlyEnded (first ++ [.bare ")"]) :=
  (singleton (by decide)).append first

/-- Lists that end firmly do so when joined. -/
theorem joined
    {separator : String}
    {lists : List (List Piece)}
    (nonempty : lists ≠ [])
    (firm : ∀ pieces ∈ lists, FirmlyEnded pieces) :
    FirmlyEnded (Piece.joined separator lists) := by
  induction lists with
  | nil =>
      exact absurd rfl nonempty
  | cons pieces rest inductionHypothesis =>
      cases rest with
      | nil =>
          exact firm pieces mem_cons_self
      | cons next rest =>
          have restFirm :=
            inductionHypothesis (cons_ne_nil next rest)
              fun other member => firm other (mem_cons_of_mem pieces member)
          rw [joined_cons_cons]
          exact (restFirm.cons _).append pieces

/-- A number ends firmly, whatever keyword stands before it. -/
theorem number
    {text : String}
    (isNumber : IsNumberText text)
    (keyword : String) :
    FirmlyEnded [.bare (keyword ++ text)] := by
  obtain ⟨c, isLast, quiet⟩ := isNumber.last_quiet
  apply singleton
  rw [isFirm, String.toList_append, getLast?_append, isLast]
  exact isFirmChar_of_quiet quiet

end FirmlyEnded

/-- A name ends with a quoted token, with a new name behind it or without one. -/
theorem firmlyEnded_named
    (qualifier : Option String)
    (name : String)
    (label : Option String) :
    FirmlyEnded (qualified qualifier name ++ aliased label) := by
  have label :
      aliased label = [] ∨ FirmlyEnded (aliased label) := by
    unfold aliased
    split
    · exact Or.inl rfl
    · exact Or.inl rfl
    · exact Or.inr ((FirmlyEnded.singleton rfl).cons _)
  rcases label with noLabel | labelFirm
  · rw [noLabel, append_nil]
    unfold qualified
    split
    · exact .singleton rfl
    · exact .singleton rfl
    · exact ((FirmlyEnded.singleton rfl).cons _).cons _
  · exact labelFirm.append _

/-- A reference to a column ends firmly. -/
theorem firmlyEnded_columnReference
    (table : Option String)
    (column : String) :
    FirmlyEnded (columnReference table column) := by
  simpa [aliased, columnReference] using firmlyEnded_named table column none

end Piece

/-- Every literal ends firmly. -/
theorem firmlyEnded_literal
    {value : Value}
    {pieces : List Piece}
    (written : literal value = .ok pieces) :
    Piece.FirmlyEnded pieces := by
  have number
      {text : String}
      (isNumber : IsNumberText text) :
      Piece.FirmlyEnded [.bare text] := by
    simpa using Piece.FirmlyEnded.number isNumber ""
  refine literalInduction (.singleton (by decide)) (fun _ => .singleton rfl)
    (fun value => number (Numeral.ofInt_isNumberText value))
    (fun _ finite => number (Binary64.text_isNumberText finite))
    (fun _ finite => number (Decimal.text_isNumberText finite))
    (fun _ => .singleton rfl) (fun _ => .singleton rfl)
    (fun _ => .singleton (by decide)) ?items written
  case items =>
    intro kind values lists nonempty writtenItems
    apply Piece.FirmlyEnded.joined
    · rintro rfl
      exact nonempty (forall₂_nil_right_iff.mp writtenItems)
    · clear nonempty
      induction writtenItems with
      | nil => simp
      | cons first _ inductionHypothesis =>
          exact forall_mem_cons.mpr ⟨first, inductionHypothesis⟩

end Sql

/-! ## Clauses -/

/-- An operand ends firmly. -/
theorem Operand.firmlyEnded_pieces
    {clause : Clause}
    {operand : Operand}
    (succeeds : (operand.rendering clause).failure = none) :
    Piece.FirmlyEnded operand.pieces := by
  rcases written_cases succeeds with
    ⟨table, name, rfl⟩ | ⟨value, pieces, rfl, isOk⟩ | ⟨name, rfl⟩
  · exact Piece.firmlyEnded_columnReference table _
  · rw [Operand.pieces, isOk]
    exact firmlyEnded_literal isOk
  · exact .singleton rfl

/-- What is asked ends with the last operand, or with a parenthesis, a word or a pattern. -/
theorem Predicate.firmlyEnded_conditionPieces
    {clause : Clause}
    (predicate : Predicate)
    (column : Operand)
    (negate : Bool)
    (written :
      ∀ operand ∈ predicate.operands,
        (operand.rendering clause).failure = none) :
    Piece.FirmlyEnded (predicate.filter column negate).conditionPieces := by
  have operand
      {part : Operand}
      (member : part ∈ predicate.operands) :
      Piece.FirmlyEnded (operandPieces (some part)) :=
    Operand.firmlyEnded_pieces (written part member)
  cases predicate with
  | compares operator right =>
      exact ((operand mem_cons_self).cons _).append _
  | isAmong value values =>
      exact .closed _
  | isBetween low high =>
      have isLast := operand (mem_cons_of_mem low mem_cons_self)
      rw [filter, Filter.conditionPieces]
      exact (isLast.cons _).append _
  | isNull | isNotNull =>
      exact (Piece.FirmlyEnded.singleton (by decide)).append _
  | isLike pattern =>
      exact ((Piece.FirmlyEnded.singleton rfl).cons _).append _

/-- A filter ends firmly. -/
theorem Filter.firmlyEnded_pieces
    {clause : Clause}
    {filter : Filter}
    (succeeds : (filter.rendering clause).failure = none) :
    Piece.FirmlyEnded filter.pieces := by
  have complete := isComplete_of_rendering succeeds
  have negated
      {negate : Bool}
      {pieces : List Piece}
      (firm : Piece.FirmlyEnded pieces) :
      Piece.FirmlyEnded (negatedPieces negate pieces) := by
    cases negate with
    | true => exact .closed _
    | false => exact firm
  rw [pieces]
  apply negated
  cases complete with
  | asks predicate negate _ argumentsWritten =>
      exact predicate.firmlyEnded_conditionPieces _ negate argumentsWritten
  | connects operator negate _ =>
      exact .closed _

/-- The filters of a clause end firmly, if there are any. -/
theorem firmlyEnded_filtersPieces
    {clause : Clause}
    {filters : List Filter}
    (succeeds : (renderFilters clause filters).failure = none)
    (nonempty : filters ≠ []) :
    Piece.FirmlyEnded (filtersPieces filters) := by
  unfold filtersPieces
  split
  · rename_i filter
    exact Filter.firmlyEnded_pieces
      (failure_of_renderFilters succeeds mem_cons_self)
  · apply Piece.FirmlyEnded.joined (by simpa using nonempty)
    intro pieces member
    obtain ⟨filter, _, rfl⟩ := mem_map.mp member
    exact .closed _

/-- A selected column ends firmly. -/
theorem SelectColumn.firmlyEnded_pieces
    {item : SelectColumn}
    (noExpression : item.expression = none) :
    Piece.FirmlyEnded item.pieces := by
  rw [pieces, noExpression]
  exact Piece.firmlyEnded_named _ _ _

/-- A join ends firmly. -/
theorem Join.firmlyEnded_pieces
    {dialect : Dialect}
    {join : Join}
    (succeeds : (join.rendering dialect).failure = none) :
    Piece.FirmlyEnded join.pieces := by
  rw [pieces, conditionPieces]
  cases isWritten : join.writtenCondition? with
  | none =>
      rw [append_nil, tableReference]
      exact (Piece.firmlyEnded_named _ _ _).cons _
  | some condition =>
      have firm :=
        condition.firmlyEnded_pieces
          (failure_of_writtenCondition succeeds isWritten)
      exact (firm.cons _).append _

/-- A limit clause ends firmly, if there is one. -/
theorem firmlyEnded_limitClause
    {dialect : Dialect}
    {limit offset : Option Int}
    (nonempty : (limitClause dialect limit offset).isEmpty = false) :
    Piece.FirmlyEnded (limitClause dialect limit offset) := by
  rw [limitClause_eq] at nonempty ⊢
  apply Piece.FirmlyEnded.joined
  · intro noBounds
    rw [noBounds] at nonempty
    cases nonempty
  · intro pieces member
    simp only [mem_append, Option.mem_toList, Option.map_eq_some_iff] at member
    rcases member with ⟨bound, _, rfl⟩ | ⟨bound, _, rfl⟩
    · exact .number (Numeral.ofInt_isNumberText bound) _
    · exact .number (Numeral.ofInt_isNumberText bound) _

/-- A clause that may be absent ends firmly where it stands. -/
theorem firmlyEnded_piecesUnless
    {absent : Bool}
    {pieces clause : List Piece}
    (firm : absent = false → Piece.FirmlyEnded clause)
    (member : pieces ∈ piecesUnless absent clause) :
    Piece.FirmlyEnded pieces := by
  cases absent with
  | true => cases member
  | false => exact mem_singleton.mp member ▸ firm rfl

/-- Without expressions every clause of a query that is written ends firmly. -/
theorem VisualQuery.firmlyEnded_clause
    {dialect : Dialect}
    {query : VisualQuery}
    (noExpressions : ∀ item ∈ query.columns, item.expression = none)
    (succeeds : (query.rendering dialect).failure = none)
    {pieces : List Piece}
    (isClause : pieces ∈ query.clausePieces dialect) :
    Piece.FirmlyEnded pieces := by
  have written := isWritten_of_rendering succeeds
  have listed
      {α : Type}
      {items : List α}
      {write : α → List Piece}
      (nonempty : items ≠ [])
      (firm : ∀ item ∈ items, Piece.FirmlyEnded (write item))
      (keyword : Piece) :
      Piece.FirmlyEnded
        (keyword :: Piece.joined itemSeparator (items.map write)) := by
    refine (Piece.FirmlyEnded.joined (by simpa using nonempty) ?_).cons keyword
    intro pieces member
    obtain ⟨item, isItem, rfl⟩ := mem_map.mp member
    exact firm item isItem
  have columnsThere : query.columns ≠ [] := by
    intro noColumns
    have selected := written.select
    rw [noColumns] at selected
    cases selected
  simp only [clausePieces, leadingPieces, mem_append, mem_cons, not_mem_nil,
    or_false] at isClause
  rcases isClause with
    ((((((rfl | rfl) | inJoins) | inCondition) | inGroups) | inHaving) |
      inOrder) | inBounds
  · exact listed columnsThere
      (fun item member => item.firmlyEnded_pieces (noExpressions item member)) _
  · exact (Piece.firmlyEnded_named _ _ _).cons _
  · obtain ⟨join, isJoin, rfl⟩ := mem_map.mp inJoins
    exact join.firmlyEnded_pieces (written.joins join isJoin)
  · exact firmlyEnded_piecesUnless
      (fun there => (firmlyEnded_filtersPieces written.condition
        (by simpa using there)).cons _) inCondition
  · exact firmlyEnded_piecesUnless
      (fun there => listed (by simpa using there)
        (fun item _ => Piece.firmlyEnded_columnReference item.table item.column) _)
      inGroups
  · exact firmlyEnded_piecesUnless
      (fun there => (firmlyEnded_filtersPieces written.having
        (by simpa using there)).cons _) inHaving
  · refine firmlyEnded_piecesUnless (fun there =>
      listed (by simpa using there) (fun item _ => ?_) _) inOrder
    refine (Piece.FirmlyEnded.singleton ?_).append _
    cases item.direction <;> decide
  · exact firmlyEnded_piecesUnless firmlyEnded_limitClause inBounds

/-! ## Statements -/

/-- The first clause of a statement starts with its keyword. -/
theorem VisualQuery.exists_cons_clausePieces
    (dialect : Dialect)
    (query : VisualQuery) :
    ∃ keyword rest,
      Piece.joined "\n" (query.clausePieces dialect) = .bare keyword :: rest ∧
        "SELECT ".toList <+: keyword.toList := by
  have isPrefix :
      "SELECT ".toList <+:
        (if query.distinct then "SELECT DISTINCT " else "SELECT ").toList := by
    cases query.distinct <;> decide
  rw [clausePieces, leadingPieces]
  exact ⟨_, _, rfl, isPrefix⟩

namespace Sql

/-- Firmly ended pieces are written with a firm character at the end. -/
theorem exists_last_of_firmlyEnded
    (dialect : Dialect)
    {pieces : List Piece}
    (sound : ∀ piece ∈ pieces, piece.Sound)
    (firm : Piece.FirmlyEnded pieces) :
    ∃ c ∈ (Piece.allChars dialect pieces).getLast?, isFirmChar c = true := by
  obtain ⟨last, isLast, lastFirm⟩ := firm
  obtain ⟨init, rfl⟩ := getLast?_eq_some_iff.mp isLast
  suffices ∃ c ∈ (last.chars dialect).getLast?, isFirmChar c = true by
    obtain ⟨c, isLastChar, firmChar⟩ := this
    refine ⟨c, ?_, firmChar⟩
    have lastChars : Piece.allChars dialect [last] = last.chars dialect := by
      simp [Piece.allChars]
    rw [Piece.allChars_append, lastChars, getLast?_append, isLastChar]
    rfl
  cases last with
  | bare text =>
      exact (Option.any_eq_true _ _).mp lastFirm
  | truth value =>
      rcases dialect with _ | (_ | _) <;> cases value <;>
        exact ⟨_, rfl, by decide⟩
  | quoted kind content =>
      refine ⟨(dialect.style kind).mark, ?_, ?_⟩
      · simp [Piece.chars, QuoteStyle.quote_eq_cons, getLast?_cons]
      · rcases dialect with _ | (_ | _) <;> cases kind <;> decide
  | placeholder name =>
      have valid : isName name.toList = true :=
        sound (.placeholder name) (by simp)
      cases shape : name.toList with
      | nil =>
          rw [shape] at valid
          cases valid
      | cons c rest =>
          have nonempty : c :: rest ≠ [] := cons_ne_nil c rest
          refine ⟨(c :: rest).getLast nonempty, ?_,
            isFirmChar_of_nameChar (Lexeme.nameChar_of_mem valid ?_)⟩
          · rw [Piece.chars, shape, getLast?_cons_cons,
              getLast?_eq_some_getLast nonempty]
            rfl
          · rw [shape]
            exact getLast_mem nonempty
  | raw text =>
      cases lastFirm

/-- A text is not trimmed if it starts with no blank and ends firmly. -/
theorem trimmed_eq_self
    {cs : List Char}
    (starts : ∀ c ∈ cs.head?, Text.isBlank c = false)
    (ends : ∃ c ∈ cs.getLast?, isFirmChar c = true) :
    trimmed cs = cs := by
  obtain ⟨c, isLast, firm⟩ := ends
  obtain ⟨init, rfl⟩ := getLast?_eq_some_iff.mp isLast
  obtain ⟨noBlank, stays⟩ : Text.isBlank c = false ∧ isTrailing c = false := by
    simpa [isFirmChar] using firm
  have sameStart : (init ++ [c]).dropWhile Text.isBlank = init ++ [c] := by
    cases init with
    | nil => simp [noBlank]
    | cons d init => simp [starts d rfl]
  rw [trimmed, Text.trimBlanks, sameStart, Text.dropEndWhile_append_singleton,
    noBlank, if_neg Bool.false_ne_true, Text.dropEndWhile_append_singleton,
    stays, if_neg Bool.false_ne_true]

end Sql

/-- Without expressions there is nothing to trim on a statement that is written. -/
theorem VisualQuery.trimmed_rendering
    {dialect : Dialect}
    {query : VisualQuery}
    (noExpressions : ∀ item ∈ query.columns, item.expression = none)
    (succeeds : (query.rendering dialect).failure = none)
    (sound : ∀ piece ∈ (query.rendering dialect).pieces, piece.Sound) :
    trimmed (Piece.allChars dialect (query.rendering dialect).pieces) =
      Piece.allChars dialect (query.rendering dialect).pieces := by
  rw [rendering_eq_of succeeds] at sound ⊢
  apply trimmed_eq_self
  · obtain ⟨keyword, rest, shape, selects⟩ :=
      query.exists_cons_clausePieces dialect
    obtain ⟨more, isKeyword⟩ := selects
    intro c isFirst
    have isLetter : c = 'S' := by
      simpa [Rendering.of, shape, Piece.allChars, Piece.chars, ← isKeyword]
        using isFirst.symm
    subst isLetter
    decide
  · apply exists_last_of_firmlyEnded dialect sound
    apply Piece.FirmlyEnded.joined
    · simp [clausePieces, leadingPieces]
    · exact fun pieces isClause =>
        firmlyEnded_clause noExpressions succeeds isClause

end QueryGateway
