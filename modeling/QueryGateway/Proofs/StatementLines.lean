import QueryGateway.Proofs.LiteralPieces
import QueryGateway.Proofs.References
import QueryGateway.Proofs.TakenPieces
import QueryGateway.Proofs.TidyRendering

/-!
# The lines of a statement

A statement without expressions has one line for each clause.  Names and texts
may hold line ends, but inside of quoted tokens only, and no keyword, number or
mark holds one.  So a statement is cut at its line ends, and every line is told
by its heading: statements with the same text have the same lines
at every place
(`VisualQuery.linesAt_eq_of_sql_eq`).
-/

namespace QueryGateway

open List Sql

/-! ## Line ends -/

section

variable {dialect : Dialect}

/-- The line end outside quoted tokens that a piece holds. -/
def Sql.Piece.lineEnd? (dialect : Dialect) (piece : Piece) : Option Token :=
  (piece.tokens dialect).find? (· = .character '\n')

/-- A piece ends a line where its tokens do. -/
theorem Sql.Piece.lineEnd?_eq_none_iff
    {piece : Piece} :
    piece.lineEnd? dialect = none ↔
      .character '\n' ∉ piece.tokens dialect := by
  simp only [lineEnd?, find?_eq_none, decide_eq_true_eq]
  exact ⟨fun noLineEnd member => noLineEnd _ member rfl,
    fun noLineEnd token member isLineEnd => noLineEnd (isLineEnd ▸ member)⟩

/-- A word has the characters of its text. -/
theorem Sql.character_mem_word
    {c : Char}
    {text : String} :
    .character c ∈ word text ↔ c ∈ text.toList := by
  simp [word]

/-- Bare text on one line holds no line end. -/
theorem Sql.Piece.lineEnd?_bare
    {text : String}
    (onLine : '\n' ∉ text.toList) :
    (Piece.bare text).lineEnd? dialect = none := by
  rw [lineEnd?_eq_none_iff, tokens, character_mem_word]
  exact onLine

/-- Every keyword stands on one line. -/
theorem Sql.takesNoKeyword_lineEnd? :
    TakesNoKeyword (Piece.lineEnd? dialect) where
  keyword text isKeyword := by
    have onLine : ∀ text ∈ keywords, '\n' ∉ text.toList := by decide
    exact Piece.lineEnd?_bare (onLine text isKeyword)
  quoted kind content := rfl

/-- No constant is written with a line end outside quoted tokens. -/
theorem Sql.lineEnd_literal
    {value : Value}
    {pieces : List Piece}
    (written : literal value = .ok pieces) :
    pieces.filterMap (Piece.lineEnd? dialect) = [] := by
  have number
      {text : String}
      (isNumber : IsNumberText text) :
      [Piece.bare text].filterMap (Piece.lineEnd? dialect) = [] := by
    rw [filterMap_cons_none (Piece.lineEnd?_bare isNumber.onLine),
      filterMap_nil]
  refine literalInduction ?null ?bool
    (fun value => number (Numeral.ofInt_isNumberText value))
    (fun _ finite => number (Binary64.text_isNumberText finite))
    (fun _ finite => number (Decimal.text_isNumberText finite))
    (fun _ => rfl) (fun _ => rfl) (fun _ => ?null) ?items written
  case null =>
    rw [nullLiteral, filterMap_cons_none (Piece.lineEnd?_bare (by decide)),
      filterMap_nil]
  case bool =>
    intro value
    have onLine : '\n' ∉ (dialect.truthText value).toList := by
      cases dialect <;> cases value <;> simp [Dialect.truthText]
    have asBare : (Piece.bare (dialect.truthText value)).lineEnd? dialect = none :=
      Piece.lineEnd?_bare onLine
    have noLineEnd : (Piece.truth value).lineEnd? dialect = none := asBare
    rw [filterMap_cons_none noLineEnd, filterMap_nil]
  case items =>
    rintro kind values lists - writtenItems
    rw [Piece.filterMap_joined (Piece.lineEnd?_bare (by decide))]
    induction writtenItems with
    | nil =>
        rfl
    | cons first _ inductionHypothesis =>
        rw [flatMap_cons, first, inductionHypothesis, append_nil]

/-- An operand stands on one line. -/
theorem Operand.lineEnd_pieces
    (operand : Operand) :
    operand.pieces.filterMap (Piece.lineEnd? dialect) = [] := by
  cases operand with
  | column table name =>
      exact takesNoKeyword_lineEnd?.filterMap_qualified table _
  | literal value =>
      rw [pieces]
      cases written : Sql.literal value with
      | error cause => rfl
      | ok pieces => exact lineEnd_literal written
  | parameter name =>
      rfl

/-- Without expressions no clause holds a line end outside quoted tokens. -/
theorem VisualQuery.lineEnd_clause
    {query : VisualQuery}
    (noExpressions : ∀ item ∈ query.columns, item.expression = none)
    {pieces : List Piece}
    (isClause : pieces ∈ query.clausePieces dialect) :
    .character '\n' ∉ Piece.allTokens dialect pieces := by
  have takes : TakesNoKeyword (Piece.lineEnd? dialect) :=
    takesNoKeyword_lineEnd?
  have leading :
      query.leadingPieces.flatMap (filterMap (Piece.lineEnd? dialect)) = [] := by
    rw [filterMap_leadingPieces takes]
    · simp [Filter.filterMap_pieces takes, Operand.lineEnd_pieces]
    · intro item member expression isExpression
      rw [noExpressions item member] at isExpression
      cases isExpression
  have taken :
      pieces.filterMap (Piece.lineEnd? dialect) = [] := by
    rw [clausePieces, mem_append] at isClause
    rcases isClause with inLeading | isBounds
    · exact flatMap_eq_nil_iff.mp leading pieces inLeading
    · rw [piecesUnless] at isBounds
      split at isBounds
      · cases isBounds
      · rw [mem_singleton.mp isBounds]
        refine filterMap_limitClause takes (fun keyword isKeyword bound => ?_)
          dialect query.limit query.offset
        have keywordOnLine :
            ∀ keyword ∈ ["LIMIT ", "OFFSET "], '\n' ∉ keyword.toList := by
          decide
        apply Piece.lineEnd?_bare
        simp [keywordOnLine keyword isKeyword,
          (Numeral.ofInt_isNumberText bound).onLine]
  rw [filterMap_eq_nil_iff] at taken
  rw [Piece.allTokens, mem_flatMap]
  rintro ⟨piece, member, isLineEnd⟩
  exact Piece.lineEnd?_eq_none_iff.mp (taken piece member) isLineEnd

end

/-! ## Headings -/

/-- What the line of a clause starts with. -/
inductive Heading where
  | select
  | source
  | join (kind : JoinKind)
  | condition
  | groupBy
  | having
  | orderBy
  | limit
  | offset
  deriving DecidableEq

namespace Heading

def text : Heading → String
  | .select => "SELECT "
  | .source => "FROM "
  | .join kind => kind.keyword ++ " "
  | .condition => "WHERE "
  | .groupBy => "GROUP BY "
  | .having => "HAVING "
  | .orderBy => "ORDER BY "
  | .limit => "LIMIT "
  | .offset => "OFFSET "

def all : List Heading :=
  [.select, .source, .condition, .groupBy, .having, .orderBy, .limit, .offset]
    ++ JoinKind.all.map .join

/-- There are no headings but those listed. -/
theorem mem_all
    (heading : Heading) :
    heading ∈ all := by
  cases heading with
  | join kind => cases kind <;> decide
  | _ => decide

/-- No heading is the beginning of another. -/
theorem prefixFree_text :
    PrefixFree text all := by
  decide

end Heading

/-- A line of a statement: its heading and what stands behind it. -/
structure Line where
  heading : Heading
  body : List Token

def Line.tokens (line : Line) : List Token :=
  word line.heading.text ++ line.body

/-- The tokens of a line tell its heading and its body. -/
theorem Line.tokens_injective :
    Function.Injective Line.tokens := by
  rintro ⟨heading, body⟩ ⟨otherHeading, otherBody⟩ same
  obtain ⟨rfl, rfl⟩ :=
    Heading.prefixFree_text.word_cancel heading.mem_all otherHeading.mem_all same
  rfl

/-! ## Bodies -/

/-- Items with commas between them as they are understood. -/
def listedTokens (write : α → List Token) (items : List α) : List Token :=
  (word itemSeparator).intercalate (items.map write)

/-- The column that an item stands for; an item without a column is refused. -/
def SelectColumn.columnName (item : SelectColumn) : String :=
  item.column.getD ""

/-- The new name of an item that counts; a new name that repeats the column's is none. -/
def SelectColumn.effectiveLabel (item : SelectColumn) : Option String :=
  present (item.label.filter (· ≠ item.columnName))

def SelectColumn.tokens (item : SelectColumn) : List Token :=
  namedTokens (present item.table) item.columnName item.effectiveLabel

def TableRef.tokens (source : TableRef) : List Token :=
  namedTokens (present source.schema) source.table (present source.label)

def ColumnRef.tokens (item : ColumnRef) : List Token :=
  referenceTokens (present item.table) item.column

def OrderItem.tokens (item : OrderItem) : List Token :=
  referenceTokens (present item.table) item.column
    ++ word (" " ++ item.direction.name)

/-- The table of a join. -/
def Join.tableRef (join : Join) : TableRef where
  table := join.table
  schema := join.schema
  label := join.label

def Join.line (dialect : Dialect) (join : Join) : Line where
  heading := .join join.kind
  body := join.tableRef.tokens ++ Piece.allTokens dialect join.conditionPieces

/-- A line that is written only if there is something to write it for. -/
def lineUnless (absent : Bool) (heading : Heading) (body : List Token) :
    List Line :=
  if absent then [] else [⟨heading, body⟩]

/-- The offset behind a limit. -/
def offsetTokens : Option Int → List Token
  | none => []
  | some offset => word " OFFSET " ++ word (Numeral.ofInt offset)

/-- The line of the bounds that count. -/
def boundLines : Option Int → Option Int → List Line
  | none, none => []
  | none, some offset => [⟨.offset, word (Numeral.ofInt offset)⟩]
  | some limit, offset =>
      [⟨.limit, word (Numeral.ofInt limit) ++ offsetTokens offset⟩]

/-! ## Places -/

/-- The places of a statement, each with the lines that may stand there. -/
inductive Place where
  | select
  | source
  | joins
  | condition
  | groupBy
  | having
  | orderBy
  | bounds
  deriving DecidableEq

/-- The places in the order of the statement. -/
def Place.all : List Place :=
  [.select, .source, .joins, .condition, .groupBy, .having, .orderBy, .bounds]

/-- There are no places but those listed. -/
theorem Place.mem_all
    (place : Place) :
    place ∈ all := by
  cases place <;> decide

def Heading.place : Heading → Place
  | .select => .select
  | .source => .source
  | .join _ => .joins
  | .condition => .condition
  | .groupBy => .groupBy
  | .having => .having
  | .orderBy => .orderBy
  | .limit | .offset => .bounds

/-- The lines of a query at a place. -/
def VisualQuery.linesAt (dialect : Dialect) (query : VisualQuery) :
    Place → List Line
  | .select =>
      [⟨.select, word (if query.distinct then "DISTINCT " else "")
        ++ listedTokens SelectColumn.tokens query.columns⟩]
  | .source => [⟨.source, query.source.tokens⟩]
  | .joins => query.joins.map (Join.line dialect)
  | .condition =>
      lineUnless query.filters.isEmpty .condition
        (Piece.allTokens dialect (filtersPieces query.filters))
  | .groupBy =>
      lineUnless query.groupBy.isEmpty .groupBy
        (listedTokens ColumnRef.tokens query.groupBy)
  | .having =>
      lineUnless query.having.isEmpty .having
        (Piece.allTokens dialect (filtersPieces query.having))
  | .orderBy =>
      lineUnless query.orderBy.isEmpty .orderBy
        (listedTokens OrderItem.tokens query.orderBy)
  | .bounds =>
      boundLines (effectiveLimit dialect query.limit query.offset)
        (effectiveOffset query.offset)

/-- The lines of a query in the order of the statement. -/
def VisualQuery.lines (dialect : Dialect) (query : VisualQuery) : List Line :=
  Place.all.flatMap (query.linesAt dialect)

/-- A line that may be absent stands in the place of its heading. -/
theorem place_lineUnless
    {absent : Bool}
    {heading : Heading}
    {body : List Token}
    {line : Line}
    (member : line ∈ lineUnless absent heading body) :
    line.heading.place = heading.place := by
  rw [lineUnless] at member
  split at member
  · cases member
  · rw [mem_singleton.mp member]

/-- The heading of a line tells its place. -/
theorem VisualQuery.place_linesAt
    {dialect : Dialect}
    {query : VisualQuery}
    (place : Place)
    (line : Line)
    (member : line ∈ query.linesAt dialect place) :
    line.heading.place = place := by
  cases place with
  | select => rw [mem_singleton.mp member]; rfl
  | source => rw [mem_singleton.mp member]; rfl
  | joins =>
      obtain ⟨join, _, rfl⟩ := mem_map.mp member
      rfl
  | condition => exact place_lineUnless member
  | groupBy => exact place_lineUnless member
  | having => exact place_lineUnless member
  | orderBy => exact place_lineUnless member
  | bounds =>
      rw [linesAt] at member
      unfold boundLines at member
      split at member
      · cases member
      · rw [mem_singleton.mp member]
        rfl
      · rw [mem_singleton.mp member]
        rfl

/-- The lines at a place are found again in the statement. -/
theorem VisualQuery.filter_lines
    (dialect : Dialect)
    (query : VisualQuery)
    (place : Place) :
    (query.lines dialect).filter (·.heading.place = place) =
      query.linesAt dialect place :=
  filter_flatMap_key place_linesAt (by decide) place.mem_all

/-! ## From the clauses to the lines -/

section

variable {dialect : Dialect}

/-- Items are understood one after the other. -/
theorem allTokens_listed
    {pieces : α → List Piece}
    {write : α → List Token}
    {items : List α}
    (each :
      ∀ item ∈ items, Piece.allTokens dialect (pieces item) = write item) :
    Piece.allTokens dialect (Piece.joined itemSeparator (items.map pieces)) =
      listedTokens write items := by
  rw [Piece.allTokens_joined, map_map, listedTokens]
  exact congrArg _ (map_congr_left each)

/-- A reference to a source has the tokens of that source. -/
theorem allTokens_tableReference
    (source : TableRef) :
    Piece.allTokens dialect
        (tableReference source.schema source.table source.label) =
      source.tokens := by
  rw [tableReference, Piece.allTokens_append, allTokens_qualified,
    allTokens_aliased]
  rfl

/-- A selected column has the tokens of that column. -/
theorem SelectColumn.allTokens_pieces
    {item : SelectColumn}
    (noExpression : item.expression = none) :
    Piece.allTokens dialect item.pieces = item.tokens := by
  rw [pieces, noExpression]
  dsimp only
  rw [Piece.allTokens_append, columnReference, allTokens_qualified,
    allTokens_aliased]
  rfl

/-- A selection is the line that starts a statement. -/
theorem allTokens_selectPieces
    (distinct : Bool)
    {columns : List SelectColumn}
    (noExpressions : ∀ item ∈ columns, item.expression = none) :
    Piece.allTokens dialect (selectPieces distinct columns) =
      (Line.mk .select (word (if distinct then "DISTINCT " else "")
        ++ listedTokens SelectColumn.tokens columns)).tokens := by
  rw [selectPieces, Piece.allTokens_cons, allTokens_listed fun item member =>
    SelectColumn.allTokens_pieces (noExpressions item member)]
  cases distinct with
  | false =>
      rfl
  | true =>
      rw [Line.tokens, ← append_assoc, ← word_append]
      rfl

/-- A join is a line of its own. -/
theorem Join.allTokens_pieces
    (join : Join) :
    Piece.allTokens dialect join.pieces = (join.line dialect).tokens := by
  have table :
      Piece.allTokens dialect
          (tableReference join.schema join.table join.label) =
        join.tableRef.tokens :=
    allTokens_tableReference join.tableRef
  rw [pieces, cons_append, Piece.allTokens_cons, Piece.allTokens_append, table]
  rfl

/-- A grouping is a line of its own. -/
theorem allTokens_groupByPieces
    (columns : List ColumnRef) :
    Piece.allTokens dialect (groupByPieces columns) =
      (Line.mk .groupBy (listedTokens ColumnRef.tokens columns)).tokens := by
  rw [groupByPieces, Piece.allTokens_cons, allTokens_listed fun item _ =>
    allTokens_qualified dialect item.table item.column]
  rfl

/-- An ordering is a line of its own. -/
theorem allTokens_orderByPieces
    (items : List OrderItem) :
    Piece.allTokens dialect (orderByPieces items) =
      (Line.mk .orderBy (listedTokens OrderItem.tokens items)).tokens := by
  have each
      (item : OrderItem) :
      Piece.allTokens dialect item.pieces = item.tokens := by
    rw [OrderItem.pieces, Piece.allTokens_append, columnReference,
      allTokens_qualified]
    simp [OrderItem.tokens, Piece.tokens]
  rw [orderByPieces, Piece.allTokens_cons,
    allTokens_listed fun item _ => each item]
  rfl

/-- A clause is a line, or absent with it. -/
theorem map_allTokens_piecesUnless
    {absent : Bool}
    {pieces : List Piece}
    {heading : Heading}
    {body : List Token}
    (understood :
      Piece.allTokens dialect pieces = (Line.mk heading body).tokens) :
    (piecesUnless absent pieces).map (Piece.allTokens dialect) =
      (lineUnless absent heading body).map Line.tokens := by
  cases absent with
  | true =>
      rfl
  | false =>
      simp [piecesUnless, lineUnless, understood]

/-- A limit clause is the lines of its bounds. -/
theorem map_allTokens_limitClause
    (limit offset : Option Int) :
    (piecesUnless (limitClause dialect limit offset).isEmpty
        (limitClause dialect limit offset)).map (Piece.allTokens dialect) =
      (boundLines (effectiveLimit dialect limit offset)
        (effectiveOffset offset)).map Line.tokens := by
  rw [limitClause_eq]
  cases effectiveLimit dialect limit offset <;>
    cases effectiveOffset offset <;>
    simp [Piece.joined, piecesUnless, boundLines, offsetTokens, Line.tokens,
      Heading.text, Piece.tokens, word]

/-- The clauses of a query are understood as its lines. -/
theorem VisualQuery.map_allTokens_clausePieces
    {query : VisualQuery}
    (noExpressions : ∀ item ∈ query.columns, item.expression = none) :
    (query.clausePieces dialect).map (Piece.allTokens dialect) =
      (query.lines dialect).map Line.tokens := by
  have source :
      Piece.allTokens dialect query.source.pieces =
        (Line.mk .source query.source.tokens).tokens := by
    rw [TableRef.pieces, Piece.allTokens_cons, allTokens_tableReference]
    rfl
  have condition :
      Piece.allTokens dialect (.bare "WHERE " :: filtersPieces query.filters) =
        (Line.mk .condition
          (Piece.allTokens dialect (filtersPieces query.filters))).tokens := rfl
  have having :
      Piece.allTokens dialect (.bare "HAVING " :: filtersPieces query.having) =
        (Line.mk .having
          (Piece.allTokens dialect (filtersPieces query.having))).tokens := rfl
  have joins :
      (query.joins.map Join.pieces).map (Piece.allTokens dialect) =
        (query.joins.map (Join.line dialect)).map Line.tokens := by
    rw [map_map, map_map]
    exact map_congr_left fun join _ => join.allTokens_pieces
  rw [clausePieces, leadingPieces, lines]
  simp only [Place.all, flatMap_cons, flatMap_nil, linesAt, map_append,
    map_cons, append_assoc, cons_append, nil_append, append_nil]
  rw [allTokens_selectPieces query.distinct noExpressions, source, joins,
    map_allTokens_piecesUnless condition,
    map_allTokens_piecesUnless (allTokens_groupByPieces query.groupBy),
    map_allTokens_piecesUnless having,
    map_allTokens_piecesUnless (allTokens_orderByPieces query.orderBy),
    map_allTokens_limitClause]

/-- The statement of a query is understood as its lines with a line end between each two. -/
theorem VisualQuery.tokens_sql
    {query : VisualQuery}
    {compiled : CompiledQuery}
    (noExpressions : ∀ item ∈ query.columns, item.expression = none)
    (isCompiled : query.compile dialect = .ok compiled) :
    tokens dialect compiled.sql =
      [.character '\n'].intercalate ((query.lines dialect).map Line.tokens) := by
  have plain : query.ExpressionsArePlain := by
    intro item member expression isExpression
    rw [noExpressions item member] at isExpression
    cases isExpression
  obtain ⟨succeeds, rfl⟩ := compile_eq_ok isCompiled
  dsimp only
  rw [tokens_write dialect (query.tidy_rendering dialect plain),
    rendering_eq_of succeeds, ← map_allTokens_clausePieces noExpressions]
  exact Piece.allTokens_joined dialect "\n" _

/-- Queries without expressions whose statements have the same text have the same lines at every
place. -/
theorem VisualQuery.linesAt_eq_of_sql_eq
    {query other : VisualQuery}
    {compiled otherCompiled : CompiledQuery}
    (noExpressions : ∀ item ∈ query.columns, item.expression = none)
    (otherNoExpressions : ∀ item ∈ other.columns, item.expression = none)
    (isCompiled : query.compile dialect = .ok compiled)
    (otherIsCompiled : other.compile dialect = .ok otherCompiled)
    (sameText : compiled.sql = otherCompiled.sql)
    (place : Place) :
    query.linesAt dialect place = other.linesAt dialect place := by
  have cut
      {query : VisualQuery}
      {compiled : CompiledQuery}
      (noExpressions : ∀ item ∈ query.columns, item.expression = none)
      (isCompiled : query.compile dialect = .ok compiled) :
      (tokens dialect compiled.sql).splitOn (.character '\n') =
        (query.lines dialect).map Line.tokens := by
    rw [tokens_sql noExpressions isCompiled]
    refine splitOn_intercalate _ (fun line member => ?_) (by simp [lines, Place.all, linesAt])
    rw [← map_allTokens_clausePieces noExpressions, mem_map] at member
    obtain ⟨pieces, isClause, rfl⟩ := member
    exact lineEnd_clause noExpressions isClause
  have sameLines :
      (query.lines dialect).map Line.tokens =
        (other.lines dialect).map Line.tokens := by
    rw [← cut noExpressions isCompiled, sameText,
      cut otherNoExpressions otherIsCompiled]
  rw [← filter_lines, ← filter_lines,
    map_injective_iff.mpr Line.tokens_injective sameLines]

end

end QueryGateway
