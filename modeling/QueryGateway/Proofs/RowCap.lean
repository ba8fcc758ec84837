import QueryGateway.Proofs.BoundQueries
import QueryGateway.Proofs.LimitSearch
import QueryGateway.Proofs.StatementEnds
import QueryGateway.Proofs.TakenPieces

/-!
# What decides whether a statement is capped

A statement that is made from a query is capped unless it holds a limit.  It
holds one if the query has a limit of its own, and also if a quoted token of it
holds what looks like one; keywords, numbers and names outside quoted tokens
never do.  So data can keep a statement from being capped, and nothing else can.
-/

namespace QueryGateway

open List Sql

namespace Sql

/-! ## Text without the keyword -/

/-- Text without a form of the first letter does not spell the keyword. -/
theorem spellsLimit_of_noLetter
    {cs : List Char}
    (noLetter : ∀ c ∈ cs, isLetterForm 'L' c = false) :
    spellsLimit cs = false := by
  induction cs with
  | nil =>
      rfl
  | cons c rest inductionHypothesis =>
      have restUnspelled :=
        inductionHypothesis fun d member => noLetter d (mem_cons_of_mem c member)
      simp [spellsLimit, limitKeyword, afterKeyword?, noLetter c mem_cons_self,
        restUnspelled]

theorem IsNumberText.noLetter
    {text : String}
    (isNumber : IsNumberText text) :
    ∀ c ∈ text.toList, isLetterForm 'L' c = false := by
  intro c member
  rcases isNumber.chars c member with quiet | rfl
  · by_contra isForm
    have isLetter : c = 'L' ∨ c = 'l' := by
      simpa [isLetterForm, or_iff_not_imp_left] using isForm
    rcases isLetter with rfl | rfl <;> exact absurd quiet (by decide)
  · decide

theorem spelled?_number
    {text : String}
    (isNumber : IsNumberText text)
    {keyword : String}
    (noLetter : ∀ c ∈ keyword.toList, isLetterForm 'L' c = false) :
    (Piece.bare (keyword ++ text)).spelled? = none := by
  apply Piece.spelled?_bare
  apply spellsLimit_of_noLetter
  intro c member
  rw [String.toList_append, mem_append] at member
  exact member.elim (noLetter c) (IsNumberText.noLetter isNumber c)

theorem takesNoKeyword_spelled? :
    TakesNoKeyword Piece.spelled? where
  keyword text isKeyword := by
    have unspelled : ∀ text ∈ keywords, spellsLimit text.toList = false := by
      decide
    exact Piece.spelled?_bare (unspelled text isKeyword)
  quoted kind content := rfl

/-- No constant spells the keyword outside quoted tokens. -/
theorem spelled?_literal
    {value : Value}
    {pieces : List Piece}
    (written : literal value = .ok pieces) :
    pieces.filterMap Piece.spelled? = [] := by
  have number
      {text : String}
      (isNumber : IsNumberText text) :
      [Piece.bare text].filterMap Piece.spelled? = [] := by
    have unspelled : (Piece.bare ("" ++ text)).spelled? = none :=
      spelled?_number isNumber (by simp)
    rw [String.empty_append] at unspelled
    rw [filterMap_cons_none unspelled, filterMap_nil]
  refine literalInduction (by decide) (fun _ => rfl)
    (fun value => number (Numeral.ofInt_isNumberText value))
    (fun _ finite => number (Binary64.text_isNumberText finite))
    (fun _ finite => number (Decimal.text_isNumberText finite))
    (fun _ => rfl) (fun _ => rfl) (fun _ => by decide) ?items written
  case items =>
    rintro kind values lists - writtenItems
    rw [Piece.filterMap_joined (Piece.spelled?_bare (by decide))]
    induction writtenItems with
    | nil =>
        rfl
    | cons first _ inductionHypothesis =>
        rw [flatMap_cons, first, inductionHypothesis, append_nil]

end Sql

theorem Operand.spelled?_pieces
    (operand : Operand) :
    operand.pieces.filterMap Piece.spelled? = [] := by
  cases operand with
  | column table name =>
      exact takesNoKeyword_spelled?.filterMap_qualified table _
  | literal value =>
      rw [pieces]
      cases written : Sql.literal value with
      | error cause => rfl
      | ok pieces => exact spelled?_literal written
  | parameter name =>
      rfl

/-! ## Limits of a query -/

/-- Whether a query carries a limit of its own: it is given one, or the engine takes no offset
without one. -/
def VisualQuery.hasOwnLimit (dialect : Dialect) (query : VisualQuery) : Bool :=
  query.limit.isSome ||
    (query.offset.any (0 < ·) && !dialect.supportsStandaloneOffset)

/-- The limit that counts is there exactly if the query carries one. -/
theorem VisualQuery.effectiveLimit_isSome
    {dialect : Dialect}
    {query : VisualQuery}
    (written : query.IsWritten dialect) :
    (effectiveLimit dialect query.limit query.offset).isSome =
      query.hasOwnLimit dialect := by
  have sameOffset :
      (query.offset.filter (· ≠ 0)).isSome = query.offset.any (0 < ·) := by
    have offsetWritten := written.offset
    cases skipping : query.offset with
    | none =>
        rfl
    | some offset =>
        rw [skipping] at offsetWritten
        have nonneg := checkSign_nonneg offsetWritten
        by_cases isZero : offset = 0
        · simp [isZero]
        · have positive : 0 < offset := by omega
          simp [isZero, positive]
  rw [effectiveLimit, hasOwnLimit, sameOffset]
  cases query.limit with
  | some limit =>
      rfl
  | none =>
      cases query.offset.any (0 < ·) <;>
        cases dialect.supportsStandaloneOffset <;> rfl

/-- The limit that counts is not negative. -/
theorem VisualQuery.effectiveLimit_nonneg
    {dialect : Dialect}
    {query : VisualQuery}
    (written : query.IsWritten dialect)
    {bound : Int}
    (isBound : effectiveLimit dialect query.limit query.offset = some bound) :
    0 ≤ bound := by
  rw [effectiveLimit] at isBound
  split at isBound
  · cases isBound
    decide
  · have limitWritten := written.limit
    rw [isBound] at limitWritten
    exact checkSign_nonneg limitWritten

/-- Without a limit of its own no piece of a query spells the keyword. -/
theorem VisualQuery.spelled?_clausePieces
    {dialect : Dialect}
    {query : VisualQuery}
    (noExpressions : ∀ item ∈ query.columns, item.expression = none)
    (noLimit : effectiveLimit dialect query.limit query.offset = none) :
    ∀ piece ∈ Piece.joined "\n" (query.clausePieces dialect),
      piece.spelled? = none := by
  have leading :
      query.leadingPieces.flatMap (filterMap Piece.spelled?) = [] := by
    rw [filterMap_leadingPieces takesNoKeyword_spelled?]
    · simp [Filter.filterMap_pieces takesNoKeyword_spelled?,
        Operand.spelled?_pieces]
    · intro item member expression isExpression
      rw [noExpressions item member] at isExpression
      cases isExpression
  have bounds :
      (limitClause dialect query.limit query.offset).filterMap
        Piece.spelled? = [] := by
    rw [limitClause_eq, noLimit]
    cases effectiveOffset query.offset with
    | none =>
        rfl
    | some offset =>
        have noLetter : ∀ c ∈ "OFFSET ".toList, isLetterForm 'L' c = false := by
          simp [isLetterForm]
        have unspelled :=
          spelled?_number (Numeral.ofInt_isNumberText offset) noLetter
        exact filterMap_cons_none unspelled
  rw [← filterMap_eq_nil_iff, Piece.filterMap_joined (by decide), clausePieces,
    flatMap_append, leading, nil_append,
    filterMap_piecesUnless fun _ => bounds, bounds]

namespace Sql

/-- A limit that is found behind a front is found in the whole text. -/
theorem holdsLimitAfter_append_of_back
    {front back : List Char}
    {previous : Option Char}
    (found : holdsLimitAfter (front.getLast?.or previous) back = true) :
    holdsLimitAfter previous (front ++ back) = true := by
  induction front generalizing previous with
  | nil =>
      exact found
  | cons c front inductionHypothesis =>
      rw [getLast?_or_cons] at found
      rw [cons_append, holdsLimitAfter, inductionHypothesis found, Bool.or_true]

/-- A line that starts with a limit is found. -/
theorem holdsLimitAfter_line
    {bound : Int}
    (nonneg : 0 ≤ bound)
    (front back : List Char)
    (previous : Option Char) :
    holdsLimitAfter previous
        (front ++ '\n' :: ("LIMIT " ++ Numeral.ofInt bound).toList ++ back) =
      true := by
  obtain ⟨n, rfl⟩ := Int.eq_ofNat_of_zero_le nonneg
  have digits : (Numeral.ofInt n).toList = Numeral.digitsOf n := by
    simp [Numeral.ofInt, Numeral.ofNat]
  obtain ⟨c, rest, shape⟩ :=
    exists_cons_of_ne_nil (Nat.toDigits_ne_nil : Nat.toDigits 10 n ≠ [])
  have digit : c.isDigit = true :=
    Nat.isDigit_of_mem_toDigits (by decide) (by decide)
      (shape ▸ mem_cons_self)
  have quiet : isQuietChar c = true := by
    simp [isQuietChar, digit]
  have noBlank : Text.isBlank c = false := by
    have firm := isFirmChar_of_quiet quiet
    simp only [isFirmChar, Bool.and_eq_true, Bool.not_eq_true'] at firm
    exact firm.1
  have decimal : Text.isDecimalDigit c = true := by
    simp [Text.isDecimalDigit, Text.decimalDigit?_ascii digit]
  have starts :
      startsWithLimit (("LIMIT " ++ Numeral.ofInt n).toList ++ back) = true := by
    have afterwards :
        afterKeyword? limitKeyword
            (("LIMIT " ++ Numeral.ofInt n).toList ++ back) =
          some (' ' :: c :: (rest ++ back)) := by
      rw [String.toList_append, digits, Numeral.digitsOf, shape]
      rfl
    have blank : Text.isBlank ' ' = true := by decide
    rw [startsWithLimit_eq, afterwards]
    simp [startsWithNumber, digitAfterBlanks_cons, blank, noBlank, decimal]
  rw [append_assoc, cons_append]
  apply holdsLimitAfter_append_of_back
  have noWord : Text.isWord '\n' = false := by decide
  have nonempty : ("LIMIT " ++ Numeral.ofInt n).toList ++ back ≠ [] := by
    simp
  obtain ⟨d, more, isLine⟩ := exists_cons_of_ne_nil nonempty
  rw [isLine] at starts ⊢
  simp [holdsLimitAfter, noWord, starts]

end Sql

/-- A limit of its own is found in the statement of a query. -/
theorem VisualQuery.holdsLimit_of_own
    {dialect : Dialect}
    {query : VisualQuery}
    (written : query.IsWritten dialect)
    (own : query.hasOwnLimit dialect = true) :
    holdsLimit
        (Piece.allChars dialect
          (Piece.joined "\n" (query.clausePieces dialect))) =
      true := by
  rw [← effectiveLimit_isSome written] at own
  obtain ⟨bound, isBound⟩ := Option.isSome_iff_exists.mp own
  have nonneg := effectiveLimit_nonneg written isBound
  obtain ⟨rest, shape⟩ :
      ∃ rest, limitClause dialect query.limit query.offset =
        .bare ("LIMIT " ++ Numeral.ofInt bound) :: rest := by
    rw [limitClause_eq, isBound]
    cases effectiveOffset query.offset <;> exact ⟨_, rfl⟩
  have leadingThere : query.leadingPieces ≠ [] := by
    simp [leadingPieces]
  have line :=
    holdsLimitAfter_line nonneg
      (Piece.allChars dialect (Piece.joined "\n" query.leadingPieces))
      (Piece.allChars dialect rest) none
  rw [holdsLimit, clausePieces, shape]
  rw [← line, piecesUnless, if_neg (by simp), Piece.joined_concat "\n" leadingThere,
    Piece.allChars_append]
  simp [Piece.allChars, Piece.chars]

/-- The statement of a query without placeholders holds a limit exactly if the query has one of its
own or a quoted token of it holds one. -/
theorem VisualQuery.holdsLimit_rendering
    {dialect : Dialect}
    {query : VisualQuery}
    (noExpressions : ∀ item ∈ query.columns, item.expression = none)
    (tidy : (query.rendering dialect).Tidy)
    (succeeds : (query.rendering dialect).failure = none)
    (nameless : ∀ piece ∈ (query.rendering dialect).pieces, piece.name? = none) :
    holdsLimit (Piece.allChars dialect (query.rendering dialect).pieces) =
      (query.hasOwnLimit dialect ||
        (query.rendering dialect).pieces.any Piece.quotesLimit) := by
  have written := isWritten_of_rendering succeeds
  cases own : query.hasOwnLimit dialect with
  | true =>
      rw [rendering_eq_of succeeds]
      exact holdsLimit_of_own written own
  | false =>
      have noLimit :
          effectiveLimit dialect query.limit query.offset = none := by
        rw [← effectiveLimit_isSome written] at own
        simpa using own
      have unspelled := spelled?_clausePieces noExpressions noLimit
      have pieces :
          (query.rendering dialect).pieces =
            Piece.joined "\n" (query.clausePieces dialect) := by
        rw [rendering_eq_of succeeds]
        rfl
      rw [holdsLimit, Bool.false_or,
        holdsLimitAfter_allChars dialect tidy nameless (pieces ▸ unspelled)]

/-- A statement that needs no trimming stays as it is if it holds a limit, and else it gets one. -/
theorem Sql.capped?_of_trimmed
    {statement : String}
    (isTrimmed : trimmed statement.toList = statement.toList)
    (rows : Int) :
    capped? statement rows =
      if holdsLimit statement.toList then some statement
      else if Numeral.isWritable rows then
        some (statement ++ "\nLIMIT " ++ Numeral.ofInt rows)
      else none := by
  rw [capped?_eq, isTrimmed, String.ofList_toList]

/-- The statement of a query without expressions is sent as it is if the query has a limit of its
own or a quoted token of the statement holds what looks like one; otherwise it is capped, with a
number of rows that is short enough to be written. -/
theorem VisualQuery.capped?_resolved
    (dialect : Dialect)
    {query : VisualQuery}
    (noExpressions : ∀ item ∈ query.columns, item.expression = none)
    {compiled : CompiledQuery}
    (isCompiled : query.compile dialect = .ok compiled)
    {parameters : Parameters}
    {statement : String}
    (isResolved : resolve dialect compiled.sql parameters = .ok statement)
    (rows : Int) :
    capped? statement rows =
      if query.hasOwnLimit dialect ||
          (tokens dialect statement).any Token.quotesLimit then
        some statement
      else if Numeral.isWritable rows then
        some (statement ++ "\nLIMIT " ++ Numeral.ofInt rows)
      else none := by
  have plain : query.ExpressionsArePlain := by
    intro item member expression isExpression
    rw [noExpressions item member] at isExpression
    cases isExpression
  obtain ⟨succeeds, rfl⟩ := compile_eq_ok isCompiled
  obtain ⟨bound, isBound, rfl, nameless⟩ :=
    bind_of_resolve plain succeeds isResolved
  have boundNoExpressions :
      ∀ item ∈ (query.bind parameters).columns, item.expression = none := by
    intro item member
    obtain ⟨column, inQuery, rfl⟩ := mem_map.mp member
    exact noExpressions column inQuery
  have boundTidy :=
    (query.bind parameters).tidy_rendering dialect
      ((plain_mapParts _ _ _).mpr plain)
  have boundSucceeds :
      ((query.bind parameters).rendering dialect).failure = none := by
    rw [isBound]
    rfl
  have pieces : ((query.bind parameters).rendering dialect).pieces = bound := by
    rw [isBound]
    rfl
  have isTrimmed := trimmed_rendering boundNoExpressions boundSucceeds boundTidy.sound
  have limited :=
    holdsLimit_rendering boundNoExpressions boundTidy boundSucceeds
      (pieces ▸ nameless)
  have tidyPieces : Piece.Tidy bound := pieces ▸ boundTidy
  rw [pieces] at isTrimmed limited
  rw [capped?_of_trimmed (by rw [Piece.toList_write, isTrimmed]),
    Piece.toList_write, limited, tokens_write dialect tidyPieces,
    Piece.any_tokens_quotesLimit]
  rfl

/-- A query for the rows with a given text. -/
def VisualQuery.searching : VisualQuery where
  source := { table := "t", schema := none, label := none }
  joins := []
  columns :=
    [{ table := none, column := some "a", expression := none, label := none,
       aggregate := false }]
  filters :=
    [.comparison (some (.column none (some "a"))) (some .eq)
      (some (.parameter (some "text"))) false]
  groupBy := []
  having := []
  orderBy := []
  limit := none
  offset := none
  distinct := false

/-- A search for a text that looks like no limit is capped. -/
theorem VisualQuery.capped?_resolved_searching :
    let compiled : CompiledQuery :=
      { sql := "SELECT \"a\"\nFROM \"t\"\nWHERE \"a\" = :text"
        parameterNames := ["text"]
        dialect := "postgres" }
    let statement := "SELECT \"a\"\nFROM \"t\"\nWHERE \"a\" = 'LIMIT'"
    (∀ item ∈ searching.columns, item.expression = none) ∧
      searching.compile .postgres = .ok compiled ∧
      resolve .postgres compiled.sql [("text", .text "LIMIT")] = .ok statement ∧
      capped? statement 10 = some (statement ++ "\nLIMIT 10") := by
  have noExpressions : ∀ item ∈ searching.columns, item.expression = none := by
    simp [searching]
  intro compiled statement
  have isCompiled : searching.compile .postgres = .ok compiled := by
    decide +kernel
  have isResolved :
      resolve .postgres compiled.sql [("text", .text "LIMIT")] = .ok statement := by
    decide +kernel
  refine ⟨noExpressions, isCompiled, isResolved, ?_⟩
  rw [capped?_resolved .postgres noExpressions isCompiled isResolved 10]
  decide +kernel

/-- A search for a text that looks like a limit is not capped, though the query has no limit of its
own. -/
theorem VisualQuery.capped?_searching_limit :
    let statement := "SELECT \"a\"\nFROM \"t\"\nWHERE \"a\" = 'LIMIT 5'"
    (∃ compiled, searching.compile .postgres = .ok compiled ∧
      resolve .postgres compiled.sql [("text", .text "LIMIT 5")] =
        .ok statement) ∧
      searching.hasOwnLimit .postgres = false ∧
      capped? statement 10 = some statement ∧
      capped? statement 10 ≠ some (statement ++ "\nLIMIT 10") := by
  refine ⟨⟨_, compile_of_ok rfl, ?_⟩, rfl, ?_, ?_⟩ <;> decide +kernel

end QueryGateway
