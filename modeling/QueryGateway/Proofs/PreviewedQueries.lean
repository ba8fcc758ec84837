import QueryGateway.Proofs.BoundQueries
import QueryGateway.Proofs.ReadOnlyGuard
import QueryGateway.Proofs.StatementEnds

/-!
# Executing what was previewed

A preview shows the statement of a query and lists parameters that it needs.
Executing a query without problems is executing the statement that its preview
shows.  Values of kinds that can be written, one for each placeholder of the
statement, get it past every check.  The list holds the placeholders of
filters; an expression that is written as it stands may hold more, and then the
parameters that are listed are not enough.
-/

namespace QueryGateway

open List Sql

namespace Sql

/-! ## Replacing placeholders -/

/-- Whether parameters hold, for each of some names, a value of a kind that can be written. -/
def Parameters.Supply (parameters : Parameters) (names : List String) : Prop :=
  ∀ name ∈ names, ∃ value,
    parameters.lookup name = some value ∧ value.isRenderable = true

theorem Parameters.Supply.isSome
    {parameters : Parameters}
    {names : List String}
    (supply : parameters.Supply names)
    {name : String}
    (member : name ∈ names) :
    (parameters.lookup name).isSome = true := by
  obtain ⟨value, found, _⟩ := supply name member
  rw [found]
  rfl

/-- Parameters with nothing for each of some names. -/
def Parameters.blank (names : List String) : Parameters :=
  names.map fun name => (name, .null)

theorem Parameters.lookup_blank
    (names : List String)
    (name : String) :
    (blank names).lookup name = if name ∈ names then some .null else none := by
  induction names with
  | nil =>
      rfl
  | cons first rest inductionHypothesis =>
      rw [blank, map_cons, lookup_cons]
      by_cases same : name = first
      · simp [same]
      · have different : (name == first) = false := by simpa using same
        rw [different]
        simpa [same, blank] using inductionHypothesis

theorem Parameters.supply_blank
    (names : List String) :
    (blank names).Supply names := by
  intro name member
  exact ⟨.null, by rw [lookup_blank, if_pos member], rfl⟩

theorem Parameters.supply_singleton
    (name : String)
    {value : Value}
    (renderable : value.isRenderable = true) :
    Parameters.Supply [(name, value)] [name] := by
  intro other member
  rw [mem_singleton.mp member]
  exact ⟨value, by simp, renderable⟩

/-- A value of a kind that can be written takes the place of a placeholder, unless an integer in it
is too long. -/
theorem Lexeme.substituted_of_supply
    {dialect : Dialect}
    {parameters : Parameters}
    {names : List String}
    (supply : parameters.Supply names)
    {lexeme : Lexeme}
    (named : ∀ name ∈ lexeme.name?, name ∈ names)
    {error : LiteralError}
    (failed : lexeme.substituted dialect parameters = .error error) :
    error = .longInteger := by
  rw [substituted] at failed
  cases isName : lexeme.name? with
  | none =>
      rw [isName] at failed
      cases failed
  | some name =>
      obtain ⟨value, found, renderable⟩ := supply name (named name isName)
      have outcome := literal_outcome value
      simp only [isName, found, Option.getD_some] at failed
      cases written : literal value with
      | ok pieces =>
          rw [written] at failed
          cases failed
      | error cause =>
          rw [written] at failed outcome
          cases failed
          cases outcome with
          | longInteger _ =>
              rfl
          | unsupported notRenderable =>
              rw [renderable] at notRenderable
              cases notRenderable

/-- If its placeholders are supplied, a text is resolved unless an integer is too long. -/
theorem resolve_of_supply
    {dialect : Dialect}
    {text : String}
    {parameters : Parameters}
    (supply : parameters.Supply (parameterNames dialect text))
    {error : ResolveError}
    (failed : resolve dialect text parameters = .error error) :
    error = .literal .longInteger := by
  rw [resolve_of_supplied fun name member => supply.isSome member,
    substitute_eq_gather] at failed
  cases gathered :
      gather (Lexeme.substituted dialect parameters)
        (Lexeme.scan dialect text.toList) with
  | ok cs =>
      rw [gathered] at failed
      cases failed
  | error cause =>
      rw [gathered] at failed
      cases failed
      obtain ⟨lexeme, member, lexemeFailed⟩ := exists_of_gather_error gathered
      have named :
          ∀ name ∈ lexeme.name?, name ∈ parameterNames dialect text :=
        fun name isName =>
          mem_distinct.mpr (mem_filterMap.mpr ⟨lexeme, member, isName⟩)
      rw [Lexeme.substituted_of_supply supply named lexemeFailed]

/-- A calm front of a text is still there when its placeholders are replaced. -/
theorem isPrefix_of_resolve
    {dialect : Dialect}
    {text : String}
    {front : List Char}
    (calm : Calm front)
    (endsApart : ∀ c ∈ front.getLast?, ∀ d, opensComment c d = false)
    (isFront : front <+: text.toList)
    {parameters : Parameters}
    {resolved : String}
    (isResolved : resolve dialect text parameters = .ok resolved) :
    front <+: resolved.toList := by
  obtain ⟨rest, isText⟩ := isFront
  -- Characters are gathered as they are, before whatever becomes of the rest.
  have scanned :=
    Lexeme.scanFrom_calm dialect none calm
      fun c isLast d (_ : d ∈ rest.head?) => endsApart c isLast d
  have gathered := gather_of_resolve isResolved
  rw [← isText, Lexeme.scan, scanned, gather_append] at gathered
  have copied :
      ∀ lexeme ∈ front.map Lexeme.character,
        lexeme.substituted dialect parameters = .ok lexeme.chars := by
    intro lexeme member
    obtain ⟨c, _, rfl⟩ := mem_map.mp member
    rfl
  have sameFront : (front.map Lexeme.character).flatMap Lexeme.chars = front := by
    rw [flatMap_map]
    exact flatMap_singleton' front
  rw [gather_ok copied, sameFront] at gathered
  cases restGathered :
      gather (Lexeme.substituted dialect parameters)
        (Lexeme.scanFrom dialect 0 (front.getLast?.or none) rest) with
  | error cause =>
      rw [restGathered] at gathered
      cases gathered
  | ok back =>
      rw [restGathered] at gathered
      exact ⟨back, Except.ok.inj gathered⟩

/-- A statement that starts with the keyword of a selection is a reading one. -/
theorem isReadOnly_of_isPrefix
    {statement : String}
    (selects : "SELECT ".toList <+: statement.toList) :
    isReadOnly statement = true := by
  obtain ⟨rest, isStatement⟩ := selects
  have counts : noiseLength? statement.toList = none := by
    rw [← isStatement]
    rfl
  have keyword : leadingKeyword statement.toList = "SELECT" := by
    rw [leadingKeyword, dropNoise_of_counts counts, ← isStatement]
    rfl
  rw [isReadOnly, keyword]
  decide

end Sql

/-! ## The statement of a preview -/

/-- Whether an answer is the refusal of a check: a query is not valid or cannot be compiled, a
parameter has no value or one of a kind that cannot be written, or a statement does not read.  An
integer that is too long is not refused by a check. -/
def isRefused : Except RequestError QueryResult → Bool
  | .ok _ => false
  | .error error =>
      match error with
      | .invalid _ | .compile (.fault _ _) | .resolve (.missing _)
      | .resolve (.literal (.unsupported _)) | .notReadOnly => true
      | .compile .longInteger | .resolve (.literal .longInteger) | .session _ => false

/-- A preview without problems shows a statement that the query is compiled to. -/
theorem EngineSettings.exists_of_preview
    {settings : EngineSettings}
    {source : DataSource}
    {query : VisualQuery}
    {preview : Preview}
    (isPreviewed : settings.preview source query = .ok preview)
    (valid : preview.isValid = true) :
    query.validate = [] ∧
      ∃ compiled, settings.compile source query = .ok compiled ∧
        preview.sql = some compiled.sql ∧
          preview.parameterNames = compiled.parameterNames := by
  rw [EngineSettings.preview] at isPreviewed
  cases outcome : settings.compile source query with
  | ok compiled =>
      rw [outcome] at isPreviewed
      cases isPreviewed
      exact ⟨isEmpty_iff.mp valid, compiled, rfl, rfl, rfl⟩
  | error error =>
      rw [outcome] at isPreviewed
      cases error with
      | longInteger =>
          cases isPreviewed
      | fault clause fault =>
          cases isPreviewed
          simp [Preview.isValid] at valid

/-- The statement of a compiled query starts with its keyword. -/
theorem VisualQuery.isPrefix_compile
    {dialect : Dialect}
    {query : VisualQuery}
    {compiled : CompiledQuery}
    (isCompiled : query.compile dialect = .ok compiled) :
    "SELECT ".toList <+: compiled.sql.toList := by
  obtain ⟨succeeds, rfl⟩ := compile_eq_ok isCompiled
  obtain ⟨keyword, rest, shape, selects⟩ := query.exists_cons_clausePieces dialect
  have written :
      Piece.allChars dialect (query.rendering dialect).pieces =
        keyword.toList ++ Piece.allChars dialect rest := by
    rw [rendering_eq_of succeeds]
    simp [Rendering.of, shape, Piece.allChars, Piece.chars]
  rw [Piece.toList_write, written]
  exact selects.trans (prefix_append _ _)

/-- A statement of a selection reads, so it is refused only if it cannot be resolved. -/
theorem EngineSettings.resolvedStatement_selection
    (settings : EngineSettings)
    (source : DataSource)
    {statement : String}
    (selects : "SELECT ".toList <+: statement.toList)
    (parameters : Parameters) :
    settings.resolvedStatement source (.statement statement) parameters =
      (resolve (settings.dialectFor source) statement parameters).mapError
        .resolve := by
  rw [resolvedStatement, statementOf]
  dsimp only
  cases outcome : resolve (settings.dialectFor source) statement parameters with
  | error error =>
      rfl
  | ok resolved =>
      have endsApart :
          ∀ c ∈ "SELECT ".toList.getLast?, ∀ d, opensComment c d = false := by
        intro c isLast d
        have isBlank : some ' ' = some c := isLast
        cases isBlank
        rfl
      have reads :=
        isReadOnly_of_isPrefix
          (isPrefix_of_resolve (by decide) endsApart selects outcome)
      dsimp only
      rw [if_pos reads]
      rfl

/-- Once there is a statement to send, no check refuses a request. -/
theorem Run.not_refused_of_ok
    {settings : EngineSettings}
    {source : DataSource}
    {request : Request}
    {parameters : Parameters}
    {statement : String}
    (isResolved :
      settings.resolvedStatement source request parameters = .ok statement)
    (run : Run)
    (limit : Option Int) :
    isRefused (run.execute settings source request parameters limit).1 = false := by
  rw [execute, isResolved]
  dsimp only
  cases run.executeQuery source statement (settings.rowLimit limit) with
  | mk answer later =>
      cases answer <;> rfl

/-- Values for all placeholders get a statement of a selection past every check. -/
theorem Run.not_refused_of_supply
    {settings : EngineSettings}
    {source : DataSource}
    {statement : String}
    (selects : "SELECT ".toList <+: statement.toList)
    {parameters : Parameters}
    (supply :
      parameters.Supply
        (Sql.parameterNames (settings.dialectFor source) statement))
    (run : Run)
    (limit : Option Int) :
    isRefused
        (run.execute settings source (.statement statement) parameters limit).1 =
      false := by
  have outcome :=
    EngineSettings.resolvedStatement_selection settings source selects parameters
  cases isResolved : resolve (settings.dialectFor source) statement parameters with
  | ok resolved =>
      rw [isResolved] at outcome
      exact not_refused_of_ok outcome run limit
  | error error =>
      have long := resolve_of_supply supply isResolved
      rw [isResolved, long] at outcome
      rw [execute, outcome]
      rfl

/-- A statement of a selection is refused for a placeholder without a value. -/
theorem Run.refused_of_missing
    {settings : EngineSettings}
    {source : DataSource}
    {statement : String}
    (selects : "SELECT ".toList <+: statement.toList)
    {parameters : Parameters}
    {name : String}
    (named : name ∈ Sql.parameterNames (settings.dialectFor source) statement)
    (noValue : parameters.lookup name = none)
    (run : Run)
    (limit : Option Int) :
    isRefused
        (run.execute settings source (.statement statement) parameters limit).1 =
      true := by
  obtain ⟨names, missing⟩ := resolve_missing named noValue
  rw [execute, EngineSettings.resolvedStatement_selection settings source selects,
    missing]
  rfl

/-- Executing a query whose preview shows no problem is executing the statement that the preview
shows.  Values for the parameters that are listed get it past every check exactly if each
placeholder of the statement is listed; all of them are if the expressions of the query are
plain. -/
theorem EngineSettings.execute_previewed
    {settings : EngineSettings}
    {source : DataSource}
    {query : VisualQuery}
    {preview : Preview}
    (isPreviewed : settings.preview source query = .ok preview)
    (valid : preview.isValid = true)
    (run : Run)
    (limit : Option Int) :
    ∃ statement,
      preview.sql = some statement ∧
      (∀ parameters,
        run.execute settings source (.query query) parameters limit =
          run.execute settings source (.statement statement) parameters limit) ∧
      ((∀ parameters : Parameters, parameters.Supply preview.parameterNames →
          isRefused
            (run.execute settings source (.query query) parameters limit).1 = false) ↔
        Sql.parameterNames (settings.dialectFor source) statement ⊆
          preview.parameterNames) ∧
      (query.ExpressionsArePlain →
        Sql.parameterNames (settings.dialectFor source) statement =
          preview.parameterNames) := by
  obtain ⟨noProblems, compiled, isCompiled, shown, listed⟩ :=
    exists_of_preview isPreviewed valid
  have sameStatement :
      settings.statementOf source (.query query) =
        settings.statementOf source (.statement compiled.sql) := by
    rw [statementOf, statementOf, noProblems, isCompiled]
  have sameExecution
      (parameters : Parameters) :
      run.execute settings source (.query query) parameters limit =
        run.execute settings source (.statement compiled.sql) parameters limit := by
    rw [Run.execute, Run.execute, resolvedStatement, resolvedStatement, sameStatement]
  have selects := VisualQuery.isPrefix_compile isCompiled
  refine ⟨compiled.sql, shown, sameExecution, ⟨?enough, ?sufficient⟩, fun plain => ?_⟩
  case enough =>
    intro passes name inStatement
    by_contra notListed
    -- Parameters for the listed names only leave this placeholder without a value.
    have noValue :
        (Parameters.blank preview.parameterNames).lookup name = none := by
      rw [Parameters.lookup_blank, if_neg notListed]
    have refused := Run.refused_of_missing selects inStatement noValue run limit
    have passed := passes _ (Parameters.supply_blank preview.parameterNames)
    rw [sameExecution, refused] at passed
    cases passed
  case sufficient =>
    intro allListed parameters supply
    rw [sameExecution]
    exact Run.not_refused_of_supply selects
      (fun name member => supply name (allListed member)) run limit
  · rw [listed]
    obtain ⟨succeeds, rfl⟩ := VisualQuery.compile_eq_ok isCompiled
    exact parameterNames_write _ (query.tidy_rendering _ plain)

/-- A query whose only item is written as it stands, with a condition on a parameter. -/
def VisualQuery.calling (expression : String) : VisualQuery where
  source := { table := "t", schema := none, label := none }
  joins := []
  columns :=
    [{ table := none, column := none, expression := some expression, label := none,
       aggregate := false }]
  filters :=
    [.comparison (some (.column none (some "a"))) (some .eq)
      (some (.parameter (some "x"))) false]
  groupBy := []
  having := []
  orderBy := []
  limit := none
  offset := none
  distinct := false

/-- A step that finds no server. -/
def Run.unreachable : Run where
  session := .start ⟨"sqlite", true, ""⟩ .standard
  server :=
    { factoryError := none
      openings := []
      connectError := some "no server"
      executeError := none
      columns := none
      rows := []
      fetchError := none
      catalog := ⟨.ok [], .ok [], []⟩ }
  log := []

/-- A query with a plain expression is executed with the parameter that its preview lists. -/
theorem EngineSettings.execute_previewed_count :
    let preview : Preview :=
      ⟨some "SELECT count(*)\nFROM \"t\"\nWHERE \"a\" = :x", ["x"], []⟩
    standard.preview (.plain .postgresql) (.calling "count(*)") = .ok preview ∧
      preview.isValid = true ∧
      isRefused
          (Run.unreachable.execute standard (.plain .postgresql)
            (.query (.calling "count(*)")) [("x", .int 1)] none).1 =
        false := by
  intro preview
  have isPreviewed :
      standard.preview (.plain .postgresql) (.calling "count(*)") =
        .ok preview := by
    decide +kernel
  have valid : preview.isValid = true := rfl
  obtain ⟨statement, isStatement, _, passes, _⟩ :=
    execute_previewed isPreviewed valid Run.unreachable none
  cases isStatement
  have listed := passes.mpr (by decide +kernel)
  exact ⟨isPreviewed, valid, listed _ (Parameters.supply_singleton "x" rfl)⟩

/-- A query is refused for a placeholder in an expression although its preview shows no problem
and every parameter that is listed has a value. -/
theorem EngineSettings.execute_previewed_call :
    let statement := "SELECT f(:y)\nFROM \"t\"\nWHERE \"a\" = :x"
    let preview : Preview := ⟨some statement, ["x"], []⟩
    standard.preview (.plain .postgresql) (.calling "f(:y)") = .ok preview ∧
      preview.isValid = true ∧
      Parameters.Supply [("x", .int 1)] preview.parameterNames ∧
      (Run.unreachable.execute standard (.plain .postgresql)
          (.query (.calling "f(:y)")) [("x", .int 1)] none).1 =
        .error (.resolve (.missing ["y"])) := by
  intro statement preview
  have isStatement :
      standard.statementOf (.plain .postgresql) (.query (.calling "f(:y)")) =
        .ok statement := by
    decide +kernel
  have placeholders :
      Sql.parameterNames (standard.dialectFor (.plain .postgresql)) statement =
        ["y", "x"] := by
    decide +kernel
  have notResolved :
      resolve (standard.dialectFor (.plain .postgresql)) statement
          [("x", .int 1)] =
        .error (.missing ["y"]) := by
    simp [resolve, placeholders]
  refine ⟨by decide +kernel, rfl, Parameters.supply_singleton "x" rfl, ?_⟩
  rw [Run.execute, resolvedStatement, isStatement]
  dsimp only
  rw [notResolved]

end QueryGateway
