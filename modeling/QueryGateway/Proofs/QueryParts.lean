import QueryGateway.Proofs.StatementLines
import QueryGateway.Proofs.WellFormedQueries

/-!
# No part of a query is lost

The parts of a query without expressions are read back from the text of its
statement (`VisualQuery.parts_eq_of_sql_eq`): what is selected and from where,
the joins, the conditions as they are written, the groups, the order and the
bounds.  Parts are the same if a statement cannot tell them apart by design: an
empty name is none, a new name that repeats the column's is none, and bounds
are those that count.
-/

namespace QueryGateway

open List Sql

/-! ## Parts -/

/-- The text of a rendering in a dialect. -/
def Rendering.text (dialect : Dialect) (rendering : Rendering) :
    Except CompileError String :=
  rendering.result.map (Piece.write dialect)

/-- A selected column with the qualifier and the new name that count. -/
structure SelectedColumn where
  qualifier : Option String
  column : Option String
  label : Option String

/-- A joined table with the text of its condition; a cross join has none. -/
structure JoinedTable where
  kind : JoinKind
  table : TableRef
  condition : Option (Except CompileError String)

/-- What a query without expressions asks for. -/
structure QueryParts where
  distinct : Bool
  columns : List SelectedColumn
  source : TableRef
  joins : List JoinedTable
  condition : Option (Except CompileError String)
  groupBy : List ColumnRef
  having : Option (Except CompileError String)
  orderBy : List OrderItem
  limit : Option Int
  offset : Option Int

def SelectColumn.selected (item : SelectColumn) : SelectedColumn where
  qualifier := present item.table
  column := item.column
  label := item.effectiveLabel

def TableRef.normal (source : TableRef) : TableRef where
  table := source.table
  schema := present source.schema
  label := present source.label

def ColumnRef.normal (item : ColumnRef) : ColumnRef where
  table := present item.table
  column := item.column

def OrderItem.normal (item : OrderItem) : OrderItem where
  table := present item.table
  column := item.column
  direction := item.direction

def Join.joined (dialect : Dialect) (join : Join) : JoinedTable where
  kind := join.kind
  table := join.tableRef.normal
  condition :=
    join.writtenCondition?.map fun condition =>
      (condition.rendering .join).text dialect

/-- The text of several filters, if there are any. -/
def filtersText (dialect : Dialect) (clause : Clause) (filters : List Filter) :
    Option (Except CompileError String) :=
  if filters.isEmpty then none else some ((renderFilters clause filters).text dialect)

/-- The parts of a query. -/
def VisualQuery.parts (dialect : Dialect) (query : VisualQuery) : QueryParts where
  distinct := query.distinct
  columns := query.columns.map SelectColumn.selected
  source := query.source.normal
  joins := query.joins.map (Join.joined dialect)
  condition := filtersText dialect .condition query.filters
  groupBy := query.groupBy.map ColumnRef.normal
  having := filtersText dialect .having query.having
  orderBy := query.orderBy.map OrderItem.normal
  limit := effectiveLimit dialect query.limit query.offset
  offset := effectiveOffset query.offset

/-! ## Items between commas -/

/-- What comes behind an item is set off by a comma, or there is nothing. -/
abbrev SetOff (rest : List Token) : Prop :=
  StartsWithStop (· = .character ',') rest

theorem SetOff.startsWithStop
    {rest : List Token}
    (setOff : SetOff rest) :
    StartsWithStop Token.IsStop rest := by
  refine setOff.imp ?_
  rintro token rfl
  decide

theorem SetOff.ne_alias
    {rest : List Token}
    (setOff : SetOff rest)
    (back : List Token) :
    rest ≠ word " AS " ++ back := by
  rintro rfl
  cases setOff (.character ' ') rfl

theorem lineUnless_inj
    {absent otherAbsent : Bool}
    {heading : Heading}
    {body otherBody : List Token}
    (same :
      lineUnless absent heading body =
        lineUnless otherAbsent heading otherBody) :
    absent = otherAbsent ∧ (absent = false → body = otherBody) := by
  cases absent <;> cases otherAbsent <;> simp_all [lineUnless]

section

variable {write : α → List Token} {view : α → β} {items otherItems : List α}

/-- Items that can be cut off before a comma are read back from their list. -/
theorem listedTokens_inj
    (cut :
      ∀ item ∈ items, ∀ other ∈ otherItems, ∀ rest otherRest,
        SetOff rest → SetOff otherRest →
        write item ++ rest = write other ++ otherRest →
        view item = view other ∧ rest = otherRest)
    (nonempty : items ≠ [])
    (otherNonempty : otherItems ≠ [])
    (same : listedTokens write items = listedTokens write otherItems) :
    items.map view = otherItems.map view := by
  have separates
      (rest : List Token) :
      SetOff (word itemSeparator ++ rest) :=
    .cons (by rfl) _
  exact intercalate_inj write view SetOff (by decide) .nil separates cut
    nonempty otherNonempty same

/-- Items that may be none are read back from their line. -/
theorem lineUnless_listed_inj
    {heading : Heading}
    (cut :
      ∀ item other rest otherRest, SetOff rest → SetOff otherRest →
        write item ++ rest = write other ++ otherRest →
        view item = view other ∧ rest = otherRest)
    (same :
      lineUnless items.isEmpty heading (listedTokens write items) =
        lineUnless otherItems.isEmpty heading (listedTokens write otherItems)) :
    items.map view = otherItems.map view := by
  obtain ⟨sameAbsence, sameBody⟩ := lineUnless_inj same
  cases items with
  | nil =>
      rw [isEmpty_iff.mp sameAbsence.symm]
  | cons item items =>
      cases otherItems with
      | nil =>
          cases sameAbsence
      | cons other otherItems =>
          exact listedTokens_inj (fun item _ other _ => cut item other)
            (cons_ne_nil item items) (cons_ne_nil other otherItems)
            (sameBody rfl)

end

/-! ## Parts from lines -/

section

variable {dialect : Dialect}

/-- A selected item that is rendered and is no expression names its column. -/
theorem SelectColumn.column_eq_some
    {item : SelectColumn}
    (noExpression : item.expression = none)
    (succeeds : item.rendering.failure = none) :
    item.column = some item.columnName := by
  unfold SelectColumn.rendering at succeeds
  cases column : item.column with
  | none =>
      simp [noExpression, column] at succeeds
  | some column =>
      simp [columnName, *]

/-- A selection that is written has items, and they are written. -/
theorem columns_of_renderSelect
    {distinct : Bool}
    {columns : List SelectColumn}
    (succeeds : (renderSelect distinct columns).failure = none) :
    columns ≠ [] ∧ ∀ item ∈ columns, item.rendering.failure = none := by
  unfold renderSelect at succeeds
  split at succeeds
  · simp at succeeds
  · rename_i nonempty
    rw [Rendering.failure_append, Option.or_eq_none_iff,
      Rendering.failure_joined_map, findSome?_eq_none_iff] at succeeds
    exact ⟨mt isEmpty_iff.mpr nonempty, succeeds.2⟩

/-- A list of selected columns starts with a quoted token. -/
theorem listedTokens_startsQuoted
    (columns : List SelectColumn) :
    StartsWithStop (·.character? = none)
      (listedTokens SelectColumn.tokens columns) := by
  have first
      (item : SelectColumn)
      (rest : List Token) :
      StartsWithStop (·.character? = none) (item.tokens ++ rest) := by
    rw [SelectColumn.tokens, namedTokens]
    cases present item.table <;> exact .cons (by rfl) _
  rw [listedTokens]
  cases columns with
  | nil =>
      exact .nil
  | cons item columns =>
      cases columns with
      | nil =>
          rw [map_singleton, intercalate_singleton,
            ← append_nil item.tokens]
          exact first item []
      | cons next columns =>
          rw [map_cons, map_cons, intercalate_cons_cons, append_assoc]
          exact first item _

/-- What is selected, and whether repeated rows count, is read back. -/
theorem VisualQuery.columns_of_linesAt
    {query other : VisualQuery}
    (noExpressions : ∀ item ∈ query.columns, item.expression = none)
    (otherNoExpressions : ∀ item ∈ other.columns, item.expression = none)
    (isWritten : query.IsWritten dialect)
    (otherIsWritten : other.IsWritten dialect)
    (same : query.linesAt dialect .select = other.linesAt dialect .select) :
    query.distinct = other.distinct ∧
      query.columns.map SelectColumn.selected =
        other.columns.map SelectColumn.selected := by
  have noQuote
      (text : String) :
      ∀ token ∈ word text, ¬ token.character? = none := by
    intro token member
    obtain ⟨c, _, rfl⟩ := mem_map.mp member
    exact Option.some_ne_none c
  have bodies := congrArg Line.body (cons.inj same).1
  obtain ⟨distincts, columns⟩ :=
    append_cancel_of_stops (noQuote _) (noQuote _)
      (listedTokens_startsQuoted query.columns)
      (listedTokens_startsQuoted other.columns) bodies
  have distinctTold :
      ∀ distinct otherDistinct : Bool,
        (if distinct then "DISTINCT " else "") =
          (if otherDistinct then "DISTINCT " else "") →
        distinct = otherDistinct := by
    decide
  constructor
  · exact distinctTold _ _ (word_injective distincts)
  · obtain ⟨nonempty, items⟩ := columns_of_renderSelect isWritten.select
    obtain ⟨otherNonempty, otherItems⟩ :=
      columns_of_renderSelect otherIsWritten.select
    refine listedTokens_inj ?_ nonempty otherNonempty columns
    intro item member otherItem otherMember rest otherRest setOff otherSetOff
      sameTokens
    obtain ⟨qualifiers, names, labels, rests⟩ :=
      namedTokens_cancel setOff.startsWithStop otherSetOff.startsWithStop
        setOff.ne_alias otherSetOff.ne_alias sameTokens
    have column :=
      SelectColumn.column_eq_some (noExpressions item member)
        (items item member)
    have otherColumn :=
      SelectColumn.column_eq_some (otherNoExpressions otherItem otherMember)
        (otherItems otherItem otherMember)
    rw [SelectColumn.selected, SelectColumn.selected, column, otherColumn,
      qualifiers, names, labels]
    exact ⟨rfl, rests⟩

/-- The tokens of a source tell its parts, where they end. -/
theorem TableRef.tokens_cancel
    {source other : TableRef}
    {rest otherRest : List Token}
    (stopped : StartsWithStop Token.IsStop rest)
    (otherStopped : StartsWithStop Token.IsStop otherRest)
    (noAlias : ∀ back, rest ≠ word " AS " ++ back)
    (otherNoAlias : ∀ back, otherRest ≠ word " AS " ++ back)
    (same : source.tokens ++ rest = other.tokens ++ otherRest) :
    source.normal = other.normal ∧ rest = otherRest := by
  obtain ⟨schemas, tables, labels, rests⟩ :=
    namedTokens_cancel stopped otherStopped noAlias otherNoAlias same
  rw [normal, normal, schemas, tables, labels]
  exact ⟨rfl, rests⟩

/-- The tokens of a grouped column tell its parts, where they end. -/
theorem ColumnRef.tokens_cancel
    (item other : ColumnRef)
    (rest otherRest : List Token)
    (setOff : SetOff rest)
    (otherSetOff : SetOff otherRest)
    (same : item.tokens ++ rest = other.tokens ++ otherRest) :
    item.normal = other.normal ∧ rest = otherRest := by
  obtain ⟨tables, columns, rests⟩ :=
    referenceTokens_cancel setOff.startsWithStop otherSetOff.startsWithStop same
  rw [normal, normal, tables, columns]
  exact ⟨rfl, rests⟩

theorem SortDirection.prefixFree_name :
    PrefixFree (fun direction => " " ++ name direction) all := by
  decide

/-- The tokens of an item of the ordering tell its parts. -/
theorem OrderItem.tokens_cancel
    (item other : OrderItem)
    (rest otherRest : List Token)
    (same : item.tokens ++ rest = other.tokens ++ otherRest) :
    item.normal = other.normal ∧ rest = otherRest := by
  have stopped
      (direction : SortDirection)
      (rest : List Token) :
      StartsWithStop Token.IsStop (word (" " ++ direction.name) ++ rest) := by
    cases direction <;> exact .cons (by decide) _
  have isDirection
      (direction : SortDirection) :
      direction ∈ SortDirection.all := by
    cases direction <;> decide
  rw [tokens, tokens, append_assoc, append_assoc] at same
  obtain ⟨tables, columns, backs⟩ :=
    referenceTokens_cancel (stopped _ _) (stopped _ _) same
  obtain ⟨directions, rests⟩ :=
    SortDirection.prefixFree_name.word_cancel (isDirection _) (isDirection _)
      backs
  rw [normal, normal, tables, columns, directions]
  exact ⟨rfl, rests⟩

theorem Rendering.text_eq_of
    {rendering : Rendering}
    {pieces : List Piece}
    (written : rendering = .of pieces) :
    rendering.text dialect = .ok (Piece.write dialect pieces) := by
  rw [written]
  rfl

/-- The text of filters is read back from their line. -/
theorem filtersText_of_line
    {clause : Clause}
    {heading : Heading}
    {filters others : List Filter}
    (succeeds : (renderFilters clause filters).failure = none)
    (otherSucceeds : (renderFilters clause others).failure = none)
    (same :
      lineUnless filters.isEmpty heading
          (Piece.allTokens dialect (filtersPieces filters)) =
        lineUnless others.isEmpty heading
          (Piece.allTokens dialect (filtersPieces others))) :
    filtersText dialect clause filters = filtersText dialect clause others := by
  obtain ⟨sameAbsence, sameBody⟩ := lineUnless_inj same
  rw [filtersText, filtersText, ← sameAbsence]
  split
  · rfl
  · rename_i isPresent
    rw [Rendering.text_eq_of (renderFilters_eq_of succeeds),
      Rendering.text_eq_of (renderFilters_eq_of otherSucceeds),
      Piece.write_eq_of_allTokens_eq (sameBody (by simpa using isPresent))]

/-- What stands behind the table of a join starts with its condition. -/
theorem Join.conditionPieces_starts
    (dialect : Dialect)
    (join : Join) :
    StartsWithStop Token.IsStop
        (Piece.allTokens dialect join.conditionPieces) ∧
      ∀ back,
        Piece.allTokens dialect join.conditionPieces ≠ word " AS " ++ back := by
  rw [conditionPieces]
  cases join.writtenCondition? with
  | none =>
      exact ⟨.nil, fun back same => (by cases same)⟩
  | some condition =>
      exact ⟨.cons (by decide) _, fun back same => (by cases same)⟩

/-- A join is read back from its line. -/
theorem Join.joined_of_line
    {join other : Join}
    (succeeds : (join.rendering dialect).failure = none)
    (otherSucceeds : (other.rendering dialect).failure = none)
    (same : join.line dialect = other.line dialect) :
    join.joined dialect = other.joined dialect := by
  have kinds : join.kind = other.kind :=
    Heading.join.inj (congrArg Line.heading same)
  obtain ⟨stopped, noAlias⟩ := join.conditionPieces_starts dialect
  obtain ⟨otherStopped, otherNoAlias⟩ := other.conditionPieces_starts dialect
  obtain ⟨tables, conditions⟩ :=
    TableRef.tokens_cancel stopped otherStopped noAlias otherNoAlias
      (congrArg Line.body same)
  rw [joined, joined, kinds, tables]
  rw [conditionPieces, conditionPieces] at conditions
  cases written : join.writtenCondition? with
  | none =>
      cases otherWritten : other.writtenCondition? with
      | none =>
          rfl
      | some otherCondition =>
          rw [written, otherWritten] at conditions
          cases conditions
  | some condition =>
      cases otherWritten : other.writtenCondition? with
      | none =>
          rw [written, otherWritten] at conditions
          cases conditions
      | some otherCondition =>
          rw [written, otherWritten] at conditions
          have isText :=
            condition.rendering_eq_of
              (failure_of_writtenCondition succeeds written)
          have otherIsText :=
            otherCondition.rendering_eq_of
              (failure_of_writtenCondition otherSucceeds otherWritten)
          have sameText :=
            Piece.write_eq_of_allTokens_eq (append_cancel_left conditions)
          rw [Option.map_some, Option.map_some, Rendering.text_eq_of isText,
            Rendering.text_eq_of otherIsText, sameText]

/-! ## Bounds -/

/-- The tokens of an offset tell it. -/
theorem offsetTokens_inj
    {offset other : Option Int}
    (same : offsetTokens offset = offsetTokens other) :
    offset = other := by
  cases offset with
  | none =>
      cases other with
      | none => rfl
      | some other => cases same
  | some offset =>
      cases other with
      | none => cases same
      | some other =>
          have numbers := word_injective (append_cancel_left same)
          rw [Numeral.ofInt_injective numbers]

theorem offsetTokens_startsWithBlank
    (offset : Option Int) :
    StartsWithStop (· = .character ' ') (offsetTokens offset) := by
  cases offset with
  | none => exact .nil
  | some offset => exact .cons (by rfl) _

theorem word_ofInt_noBlank
    (n : Int) :
    ∀ token ∈ word (Numeral.ofInt n), ¬ token = .character ' ' := by
  rintro token member rfl
  rcases Numeral.ofInt_chars (character_mem_word.mp member) with digit | sign
  · cases digit
  · cases sign

/-- The bounds are read back from their line. -/
theorem boundLines_inj
    {limit otherLimit offset otherOffset : Option Int}
    (same : boundLines limit offset = boundLines otherLimit otherOffset) :
    limit = otherLimit ∧ offset = otherOffset := by
  cases limit with
  | none =>
      cases otherLimit with
      | none =>
          cases offset with
          | none =>
              cases otherOffset with
              | none => exact ⟨rfl, rfl⟩
              | some otherOffset => cases same
          | some offset =>
              cases otherOffset with
              | none => cases same
              | some otherOffset =>
                  have bodies := congrArg Line.body (cons.inj same).1
                  have numbers := Numeral.ofInt_injective (word_injective bodies)
                  exact ⟨rfl, congrArg some numbers⟩
      | some otherLimit =>
          cases offset <;> cases same
  | some limit =>
      cases otherLimit with
      | none =>
          cases otherOffset <;> cases same
      | some otherLimit =>
          have bodies := congrArg Line.body (cons.inj same).1
          obtain ⟨limits, offsets⟩ :=
            append_cancel_of_stops (word_ofInt_noBlank limit)
              (word_ofInt_noBlank otherLimit)
              (offsetTokens_startsWithBlank offset)
              (offsetTokens_startsWithBlank otherOffset) bodies
          have numbers := Numeral.ofInt_injective (word_injective limits)
          exact ⟨congrArg some numbers, offsetTokens_inj offsets⟩

/-! ## All parts -/

/-- The parts of a query without expressions are determined by the text of its statement. -/
theorem VisualQuery.parts_eq_of_sql_eq
    {query other : VisualQuery}
    {compiled otherCompiled : CompiledQuery}
    (noExpressions : ∀ item ∈ query.columns, item.expression = none)
    (otherNoExpressions : ∀ item ∈ other.columns, item.expression = none)
    (isCompiled : query.compile dialect = .ok compiled)
    (otherIsCompiled : other.compile dialect = .ok otherCompiled)
    (sameText : compiled.sql = otherCompiled.sql) :
    query.parts dialect = other.parts dialect := by
  have isWritten := isWritten_of_rendering (compile_eq_ok isCompiled).1
  have otherIsWritten := isWritten_of_rendering (compile_eq_ok otherIsCompiled).1
  have same :=
    linesAt_eq_of_sql_eq noExpressions otherNoExpressions isCompiled
      otherIsCompiled sameText
  obtain ⟨distincts, columns⟩ :=
    columns_of_linesAt noExpressions otherNoExpressions isWritten otherIsWritten
      (same .select)
  have source : query.source.normal = other.source.normal := by
    have bodies := congrArg Line.body (cons.inj (same .source)).1
    have nothing : SetOff [] := .nil
    exact (TableRef.tokens_cancel nothing.startsWithStop nothing.startsWithStop
      nothing.ne_alias nothing.ne_alias (congrArg (· ++ []) bodies)).1
  have joins :
      query.joins.map (Join.joined dialect) =
        other.joins.map (Join.joined dialect) :=
    map_eq_of_map_eq
      (fun join member otherJoin otherMember =>
        Join.joined_of_line (isWritten.joins join member)
          (otherIsWritten.joins otherJoin otherMember))
      (same .joins)
  have condition :=
    filtersText_of_line isWritten.condition otherIsWritten.condition
      (same .condition)
  have having :=
    filtersText_of_line isWritten.having otherIsWritten.having (same .having)
  have groupBy := lineUnless_listed_inj ColumnRef.tokens_cancel (same .groupBy)
  have orderBy :=
    lineUnless_listed_inj
      (fun item otherItem rest otherRest _ _ =>
        OrderItem.tokens_cancel item otherItem rest otherRest)
      (same .orderBy)
  obtain ⟨limit, offset⟩ := boundLines_inj (same .bounds)
  rw [parts, parts, distincts, columns, source, joins, condition, having,
    groupBy, orderBy, limit, offset]

end

/-- A query with a name that may be empty or missing, a new name that may repeat the column's, and an
offset that may count for nothing. -/
def VisualQuery.shelf
    (qualifier label : Option String)
    (offset : Option Int) :
    VisualQuery where
  source := { table := "books", schema := qualifier, label := some "b, \nFROM" }
  joins :=
    [{ table := "shelves", schema := none, label := qualifier, kind := .left,
       condition :=
        some (.comparison (some (.column none (some "shelf"))) (some .eq)
          (some (.column (some "shelves") (some "number"))) false) }]
  columns :=
    [{ table := qualifier, column := some "title", expression := none,
       label := label, aggregate := false },
     { table := none, column := some "x\" AS \"y", expression := none,
       label := none, aggregate := false }]
  filters :=
    [.like (some (.column none (some "title"))) (some "a\nWHERE b") false]
  groupBy := [{ table := qualifier, column := "title" }]
  having := []
  orderBy := [{ table := qualifier, column := "title", direction := .desc }]
  limit := some 10
  offset := offset
  distinct := true

/-- Empty names and an offset of zero are told as absent. -/
theorem VisualQuery.parts_eq_of_sql_eq_shelf :
    let query := shelf (some "") (some "title") (some 0)
    let other := shelf none none none
    ∃ compiled otherCompiled,
      query.compile .postgres = .ok compiled ∧
      other.compile .postgres = .ok otherCompiled ∧
      compiled.sql = otherCompiled.sql ∧
      query.parts .postgres = other.parts .postgres := by
  intro query other
  have succeeds : (query.rendering .postgres).failure.isNone = true := by
    decide +kernel
  have otherSucceeds : (other.rendering .postgres).failure.isNone = true := by
    decide +kernel
  have isCompiled := compile_of_ok (Option.isNone_iff_eq_none.mp succeeds)
  have otherIsCompiled :=
    compile_of_ok (Option.isNone_iff_eq_none.mp otherSucceeds)
  have sameText :
      Piece.write .postgres (query.rendering .postgres).pieces =
        Piece.write .postgres (other.rendering .postgres).pieces := by
    decide +kernel
  refine ⟨_, _, isCompiled, otherIsCompiled, sameText, ?_⟩
  exact parts_eq_of_sql_eq (by simp [query, shelf]) (by simp [other, shelf])
    isCompiled otherIsCompiled sameText

end QueryGateway
