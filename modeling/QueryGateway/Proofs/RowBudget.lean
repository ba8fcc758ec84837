import QueryGateway.Proofs.SettledQueries

/-!
# What a bound leaves of the rows

A statement is bounded to one row more than the caller may see, by a limit
behind its text or where its rows are fetched.  Neither can be told from the
result: it shows the first rows that the statement yields, and it is truncated
exactly if there are more of them.  How many a request shows at most is decided
by the settings and by the limit that it asks for, where zero asks for none.
-/

namespace QueryGateway

open List Sql

/-! ## Results that show the first rows -/

/-- A result that shows the first rows of a statement, as many as a limit, each value by its cell,
and says whether there are more. -/
structure QueryResult.ShowsFirst
    (result : QueryResult)
    (limit : Int)
    (yielded : List (List Value)) :
    Prop where
  rows :
    (yielded.take (min limit.toNat yielded.length)).mapM Value.toCells? = some result.rows
  rowCount : result.rowCount = result.rows.length
  truncated : result.truncated = true ↔ limit < yielded.length

theorem QueryResult.showsFirst_of_ofRows?
    {columns : List Column}
    {limit : Int}
    (nonneg : 0 ≤ limit)
    {yielded : List (List Value)}
    {result : QueryResult}
    (shown : ofRows? columns limit.toNat yielded = some result) :
    result.ShowsFirst limit yielded := by
  rw [ofRows?_eq, Option.map_eq_some_iff] at shown
  obtain ⟨rows, collected, rfl⟩ := shown
  constructor
  case rows =>
    rw [← take_take, take_length]
    exact collected
  case rowCount =>
    rfl
  case truncated =>
    rw [decide_eq_true_eq]
    omega

/-- A result shows as many rows as there are, or as the limit allows. -/
theorem QueryResult.ShowsFirst.rowCount_eq
    {result : QueryResult}
    {limit : Int}
    {yielded : List (List Value)}
    (shows : result.ShowsFirst limit yielded)
    (nonneg : 0 ≤ limit) :
    result.rowCount = min limit yielded.length := by
  have sameLength := (mapM_eq_some_iff.mp shows.rows).length_eq
  rw [length_take] at sameLength
  rw [shows.rowCount]
  omega

namespace Server

/-! ## Rows that come back -/

/-- The rows that come back for a statement; there are none of a statement without columns. -/
def returnedRows (server : Server) : List (List Value) :=
  match server.columns with
  | none => []
  | some _ => server.rows

/-- Servers that answer a statement that is bounded to a number of rows with rows that it yields:
all of them if it was only trimmed, and the first ones if a limit was put behind it. -/
structure Yields
    (server : Server)
    (statement : String)
    (bound : Int)
    (yielded : List (List Value)) :
    Prop where
  whole :
    capped? statement bound = some (String.ofList (trimmed statement.toList)) →
      server.returnedRows = yielded
  first :
    capped? statement bound =
        some (String.ofList (trimmed statement.toList) ++ "\nLIMIT " ++ Numeral.ofInt bound) →
      server.returnedRows = yielded.take bound.toNat

/-- As many rows as the bound are the same whether or not a limit was put behind the statement. -/
theorem Yields.take_returnedRows
    {server : Server}
    {statement bounded : String}
    {bound : Int}
    {yielded : List (List Value)}
    (yields : server.Yields statement bound yielded)
    (isCapped : capped? statement bound = some bounded) :
    server.returnedRows.take bound.toNat = yielded.take bound.toNat := by
  have cases := capped?_eq statement bound
  split at cases
  · rw [yields.whole cases]
  · split at cases
    · rw [yields.first cases, take_take, Nat.min_self]
    · rw [isCapped] at cases
      cases cases

/-- The result of a statement that is run on a source and shows the first of these rows, unless a
column cannot be described or a value has no cell. -/
def showing?
    (server : Server)
    (source : DataSource)
    (limit : Int)
    (rows : List (List Value)) :
    Option QueryResult := do
  let columns ←
    (server.columns.getD []).mapM (ColumnDescription.column? (.ofEngine true source.engine))
  QueryResult.ofRows? columns limit.toNat rows

/-- A result that shows the first of some rows shows them as they are. -/
theorem showsFirst_of_showing?
    {server : Server}
    {source : DataSource}
    {limit : Int}
    (nonneg : 0 ≤ limit)
    {rows : List (List Value)}
    {result : QueryResult}
    (shown : server.showing? source limit rows = some result) :
    result.ShowsFirst limit rows := by
  obtain ⟨columns, _, ofColumns⟩ := Option.bind_eq_some_iff.mp shown
  exact QueryResult.showsFirst_of_ofRows? nonneg ofColumns

/-- There is such a result if the integers are short that have to be written for it: those in the
descriptions of the columns, and those in the mappings of the rows that are shown. -/
theorem exists_showing?
    {server : Server}
    (source : DataSource)
    {limit : Int}
    {rows : List (List Value)}
    (described :
      ∀ description ∈ server.columns.getD [],
        description.name.hasShortIntegers = true ∧
          description.typeCode.hasShortIntegers = true)
    (short :
      ∀ row ∈ rows.take limit.toNat, ∀ value ∈ row, value.hasShortMappings = true) :
    ∃ result, server.showing? source limit rows = some result := by
  obtain ⟨columns, found⟩ :=
    exists_mapM_iff.mpr fun description member =>
      ColumnDescription.exists_column? (.ofEngine true source.engine)
        (described description member).1 (described description member).2
  obtain ⟨result, shown⟩ := QueryResult.exists_ofRows? columns short
  exact ⟨result, by rw [showing?, found]; exact shown⟩

/-- What the servers reply, if nothing is refused, shows the first of the rows that come back. -/
theorem reply_eq_ok_iff
    {server : Server}
    {source : DataSource}
    {bounded : String}
    {limit : Int}
    {result : QueryResult} :
    server.reply source.id (.ofEngine true source.engine) bounded limit.toNat = .ok result ↔
      server.executeError = none ∧ (server.columns = none ∨ server.fetchError = none) ∧
        server.showing? source limit server.returnedRows = some result := by
  cases executed : server.executeError with
  | some message =>
      simp [reply, executed]
  | none =>
      cases described : server.columns with
      | none =>
          have empty : server.showing? source limit server.returnedRows = some .empty := by
            rw [showing?, returnedRows, described]
            simp [QueryResult.ofRows?_eq, QueryResult.empty]
          simp [reply, executed, described, empty]
      | some descriptions =>
          have isShowing :
              server.showing? source limit server.returnedRows =
                (descriptions.mapM
                  (ColumnDescription.column? (.ofEngine true source.engine))).bind
                    fun columns => QueryResult.ofRows? columns limit.toNat server.rows := by
            rw [showing?, returnedRows, described]
            rfl
          rw [isShowing]
          cases found :
              descriptions.mapM (ColumnDescription.column? (.ofEngine true source.engine)) with
          | none =>
              simp [reply, executed, described, found]
          | some columns =>
              rw [reply_of_described executed described found]
              cases server.fetchError with
              | some failure => cases failure <;> simp [ServerFailure.toExecutionError]
              | none =>
                  rw [Option.bind_some]
                  cases QueryResult.ofRows? columns limit.toNat server.rows <;> simp

end Server

namespace Run

section

variable
  {run : Run}
  {source : DataSource}
  {statement : String}
  {limit : Int}

/-- A query that is answered shows the first of the rows that come back. -/
theorem executeQuery_eq_ok
    {result : QueryResult}
    (answered : (run.executeQuery source statement limit).1 = .ok result) :
    1 ≤ limit ∧
      (∃ bounded, capped? statement (limit + 1) = some bounded) ∧
      run.server.showing? source limit run.server.returnedRows = some result := by
  have positive : 1 ≤ limit := by
    by_contra small
    rw [executeQuery, if_pos (Int.not_le.mp small), SessionError.ofLimit] at answered
    cases answered
  refine ⟨positive, ?_⟩
  have answeredAs :=
    fun bounded => run.reply_checkOut source source.id (.ofEngine true source.engine) bounded
  rw [executeQuery_eq _ _ _ positive] at answered
  split at answered
  · cases answered
  · rename_i bounded isCapped
    refine ⟨⟨bounded, isCapped⟩, ?_⟩
    split at answered
    · cases answered
    · rename_i connection later connected
      rw [connected] at answeredAs
      exact (Server.reply_eq_ok_iff.mp ((answeredAs _ _).symm.trans answered)).2.2

/-- A query that can be bounded is answered where a connection is there and nothing fails. -/
theorem executeQuery_of_connected
    (positive : 1 ≤ limit)
    {bounded : String}
    (isCapped : capped? statement (limit + 1) = some bounded)
    {connection : Connection}
    (connected : (run.checkOut source).1 = .ok connection)
    (executed : run.server.executeError = none)
    (fetched : run.server.fetchError = none)
    {result : QueryResult}
    (shown : run.server.showing? source limit run.server.returnedRows = some result) :
    (run.executeQuery source statement limit).1 = .ok result := by
  have answeredAs :=
    run.reply_checkOut source source.id (.ofEngine true source.engine) bounded limit.toNat
  rw [executeQuery_eq _ _ _ positive, isCapped]
  dsimp only
  generalize run.checkOut source = outcome at connected answeredAs
  obtain ⟨checked, later⟩ := outcome
  cases connected
  exact answeredAs.trans (Server.reply_eq_ok_iff.mpr ⟨executed, .inr fetched, shown⟩)

/-- What is shown of the rows that come back is what is shown of the rows that a statement
yields. -/
theorem showing?_returnedRows
    {bounded : String}
    {yielded : List (List Value)}
    (positive : 1 ≤ limit)
    (isCapped : capped? statement (limit + 1) = some bounded)
    (yields : run.server.Yields statement (limit + 1) yielded) :
    run.server.showing? source limit run.server.returnedRows =
      run.server.showing? source limit yielded := by
  have sameBound : (limit + 1).toNat = limit.toNat + 1 := by
    omega
  have sameRows := yields.take_returnedRows isCapped
  rw [sameBound] at sameRows
  have sameResult (columns : List Column) :
      QueryResult.ofRows? columns limit.toNat run.server.returnedRows =
        QueryResult.ofRows? columns limit.toNat yielded := by
    rw [← QueryResult.ofRows?_take, sameRows, QueryResult.ofRows?_take]
  rw [Server.showing?, Server.showing?]
  simp only [sameResult]

end

/-- How a query shows the rows that its statement yields. -/
structure ShowsYielded
    (run : Run)
    (source : DataSource)
    (statement : String)
    (limit : Int)
    (yielded : List (List Value)) :
    Prop where
  /-- A result shows the first rows that are yielded and says whether there are more. -/
  first :
    ∀ result,
      run.server.showing? source limit yielded = some result →
        result.ShowsFirst limit yielded
  /-- A query that is answered has this result, whether or not a limit was put behind it. -/
  same :
    ∀ result,
      (run.executeQuery source statement limit).1 = .ok result →
        run.server.showing? source limit yielded = some result
  /-- It is answered if it can be bounded, a connection is there and nothing fails. -/
  answered :
    ∀ result,
      capped? statement (limit + 1) ≠ none →
        (∃ connection, (run.checkOut source).1 = .ok connection) →
        run.server.executeError = none →
        run.server.fetchError = none →
        run.server.showing? source limit yielded = some result →
        (run.executeQuery source statement limit).1 = .ok result
  /-- There is a result if the integers are short that have to be written for it: those in the
  descriptions of the columns, and those in the mappings of the rows that are shown. -/
  shown :
    (∀ description ∈ run.server.columns.getD [],
        description.name.hasShortIntegers = true ∧
          description.typeCode.hasShortIntegers = true) →
      (∀ row ∈ yielded.take limit.toNat, ∀ value ∈ row, value.hasShortMappings = true) →
        ∃ result, run.server.showing? source limit yielded = some result

/-- A query shows the first rows that its statement yields and says whether there are more, whether
or not a limit was put behind the statement. -/
theorem executeQuery_yielded
    (run : Run)
    (source : DataSource)
    {statement : String}
    {limit : Int}
    (positive : 1 ≤ limit)
    {yielded : List (List Value)}
    (yields : run.server.Yields statement (limit + 1) yielded) :
    run.ShowsYielded source statement limit yielded where
  first _ := Server.showsFirst_of_showing? (by omega)
  same result answered := by
    obtain ⟨_, ⟨bounded, isCapped⟩, shown⟩ := executeQuery_eq_ok answered
    rw [showing?_returnedRows positive isCapped yields] at shown
    exact shown
  answered result bounds connects executed fetched shown := by
    obtain ⟨connection, connected⟩ := connects
    obtain ⟨bounded, isCapped⟩ := Option.ne_none_iff_exists'.mp bounds
    refine executeQuery_of_connected positive isCapped connected executed fetched ?_
    rw [showing?_returnedRows positive isCapped yields]
    exact shown
  shown := Server.exists_showing? source

/-- The start of a session whose server gives rows of one column. -/
def listing (rows : List (List Value)) : Run where
  session := .start ⟨"postgresql", true, ""⟩ .standard
  server :=
    { Server.willing with
      columns := some [⟨.text "id", .int 23, .null⟩]
      rows := rows }
  log := []

theorem exists_checkOut_listing
    (rows : List (List Value)) :
    ∃ connection, ((listing rows).checkOut (.ported 5433)).1 = .ok connection := by
  rw [checkOut_eq]
  exact ⟨_, rfl⟩

/-- The column is described. -/
theorem listing_described
    (rows : List (List Value)) :
    ∀ description ∈ (listing rows).server.columns.getD [],
      description.name.hasShortIntegers = true ∧
        description.typeCode.hasShortIntegers = true := by
  intro description member
  obtain rfl := mem_singleton.mp member
  exact ⟨rfl, Numeral.isWritable_of_lt (by decide)⟩

/-- Of four rows three come back and two are shown. -/
theorem executeQuery_yielded_four :
    let row (n : Int) : List Value := [.int n]
    let yielded := [row 1, row 2, row 3, row 4]
    let run := listing [row 1, row 2, row 3]
    (1 : Int) ≤ 2 ∧
      run.server.Yields "SELECT id FROM t" (2 + 1) yielded ∧
      ∃ result,
        (run.executeQuery (.ported 5433) "SELECT id FROM t" 2).1 = .ok result ∧
          result.ShowsFirst 2 yielded := by
  intro row yielded run
  have positive : (1 : Int) ≤ 2 := by decide
  have short : Numeral.isWritable (2 + 1) = true := Numeral.isWritable_of_lt (by decide)
  have yields : run.server.Yields "SELECT id FROM t" (2 + 1) yielded :=
    { whole := fun uncapped => absurd uncapped (by decide +kernel)
      first := fun _ => rfl }
  have bounded : capped? "SELECT id FROM t" (2 + 1) ≠ none := by
    rw [capped?, short, Bool.or_true, if_pos rfl]
    exact Option.some_ne_none _
  have shows := executeQuery_yielded run (.ported 5433) positive yields
  obtain ⟨result, shown⟩ := shows.shown (listing_described _) (by decide)
  exact ⟨positive, yields, result,
    shows.answered result bounded (exists_checkOut_listing _) rfl rfl shown,
    shows.first result shown⟩

/-- The greatest limit that can be written is refused, because the bound is one more. -/
theorem executeQuery_longBound :
    let limit := Int.pow 10 Numeral.digitBound - 1
    let run := listing [[.int 1]]
    1 ≤ limit ∧
      Numeral.isWritable limit = true ∧
      run.server.Yields "SELECT 1" (limit + 1) [[.int 1]] ∧
      (∃ connection, (run.checkOut (.ported 5433)).1 = .ok connection) ∧
      run.server.executeError = none ∧
      run.server.fetchError = none ∧
      (run.executeQuery (.ported 5433) "SELECT 1" limit).1 = .error .longNumber := by
  intro limit run
  have positive : 1 ≤ limit := Numeral.one_le_pow_digitBound_sub_one
  have size (digits : Nat) : (Int.pow 10 digits).natAbs = Nat.pow 10 digits :=
    Int.natAbs_pow 10 digits
  have short : Numeral.isWritable limit = true := by
    apply decide_eq_true
    rw [← size]
    omega
  have uncapped : capped? "SELECT 1" (limit + 1) = none := capped?_longBound (by decide)
  have yields : run.server.Yields "SELECT 1" (limit + 1) [[.int 1]] :=
    { whole := fun _ => rfl
      first := fun isCapped => by
        rw [uncapped] at isCapped
        cases isCapped }
  refine ⟨positive, short, yields, exists_checkOut_listing _, rfl, rfl, ?_⟩
  rw [executeQuery_eq _ _ _ positive, uncapped]

end Run

/-! ## The budget of a request -/

/-- The greatest number of rows that a request may show is the limit that it asks for, or the one of
the settings if it asks for none or for zero, and at most what the settings allow. -/
theorem EngineSettings.rowLimit_eq
    (settings : EngineSettings)
    (limit : Option Int) :
    settings.rowLimit limit =
      min
        (if limit = some 0 then settings.defaultLimit
          else limit.getD settings.defaultLimit)
        settings.maxRows := by
  rw [rowLimit]
  cases limit with
  | none =>
      rfl
  | some limit =>
      by_cases isZero : limit = 0
      · rw [isZero]
        rfl
      · rw [Option.filter_some_pos (by simpa using isZero), if_neg (by simpa using isZero)]

namespace Run

section

variable
  {run : Run}
  {settings : EngineSettings}
  {source : DataSource}
  {request : Request}
  {parameters : Parameters}
  {limit : Option Int}
  {result : QueryResult}

/-- A request is answered as its statement is, with the limit that the settings make of its own. -/
theorem execute_of_resolved
    (run : Run)
    {statement : String}
    (isResolved : settings.resolvedStatement source request parameters = .ok statement)
    (limit : Option Int) :
    (run.execute settings source request parameters limit).1 =
      (run.executeQuery source statement (settings.rowLimit limit)).1.mapError .session := by
  rw [execute, isResolved]
  dsimp only
  generalize run.executeQuery source statement (settings.rowLimit limit) = outcome
  obtain ⟨answer | answer, later⟩ := outcome <;> rfl

theorem execute_eq_ok
    (answered : (run.execute settings source request parameters limit).1 = .ok result) :
    ∃ statement,
      settings.resolvedStatement source request parameters = .ok statement ∧
        (run.executeQuery source statement (settings.rowLimit limit)).1 = .ok result := by
  cases isResolved : settings.resolvedStatement source request parameters with
  | error error =>
      rw [execute, isResolved] at answered
      cases answered
  | ok statement =>
      rw [execute_of_resolved run isResolved] at answered
      refine ⟨statement, rfl, ?_⟩
      cases queried : (run.executeQuery source statement (settings.rowLimit limit)).1 with
      | error error =>
          rw [queried] at answered
          cases answered
      | ok shown =>
          rw [queried] at answered
          cases answered
          rfl

/-- A request that is answered shows no more rows than the settings allow, than it asks for, or else
than the settings say, and it is truncated exactly if its statement has more rows than that.  A
limit of zero is not taken for what is asked for but for none. -/
theorem execute_withinBudget
    (answered : (run.execute settings source request parameters limit).1 = .ok result) :
    let asked :=
      if limit = some 0 then settings.defaultLimit else limit.getD settings.defaultLimit
    result.rowCount ≤ settings.maxRows ∧
      (∀ requested, limit = some requested → requested ≠ 0 → result.rowCount ≤ requested) ∧
      (limit = none ∨ limit = some 0 → result.rowCount ≤ settings.defaultLimit) ∧
      ∃ statement,
        settings.resolvedStatement source request parameters = .ok statement ∧
          ∀ yielded,
            run.server.Yields statement (min asked settings.maxRows + 1) yielded →
              (result.truncated = true ↔ min asked settings.maxRows < yielded.length) := by
  intro asked
  obtain ⟨statement, isResolved, queried⟩ := execute_eq_ok answered
  rw [EngineSettings.rowLimit_eq] at queried
  obtain ⟨positive, ⟨bounded, isCapped⟩, isShown⟩ := executeQuery_eq_ok queried
  change 1 ≤ min asked settings.maxRows at positive
  have count :
      result.rowCount = min (min asked settings.maxRows) run.server.returnedRows.length :=
    (Server.showsFirst_of_showing? (by omega) isShown).rowCount_eq (by omega)
  refine ⟨by omega, ?requested, ?unrequested, statement, isResolved, ?truncated⟩
  case requested =>
    rintro requested rfl nonzero
    have isAsked : asked = requested := if_neg (by simpa using nonzero)
    omega
  case unrequested =>
    intro none
    have isAsked : asked = settings.defaultLimit := by
      rcases none with rfl | rfl
      · exact if_neg (by simp)
      · exact if_pos rfl
    omega
  case truncated =>
    intro yielded yields
    rw [showing?_returnedRows positive isCapped yields] at isShown
    exact (Server.showsFirst_of_showing? (by omega) isShown).truncated

end

theorem resolvedStatement_selection
    (settings : EngineSettings) :
    settings.resolvedStatement (.ported 5433) (.statement "SELECT 1") [] = .ok "SELECT 1" := by
  have isDialect : settings.dialectFor (.ported 5433) = .postgres := rfl
  rw [EngineSettings.resolvedStatement_statement, isDialect]
  decide +kernel

/-- A request to a server with one column is answered with the first of its rows. -/
theorem execute_listing
    (rows : List (List Value))
    {settings : EngineSettings}
    {limit : Option Int}
    (positive : 1 ≤ settings.rowLimit limit)
    (writable : Numeral.isWritable (settings.rowLimit limit + 1) = true)
    (short : ∀ row ∈ rows, ∀ value ∈ row, value.hasShortMappings = true) :
    ∃ result,
      ((listing rows).execute settings (.ported 5433) (.statement "SELECT 1") [] limit).1 =
          .ok result ∧
        result.ShowsFirst (settings.rowLimit limit) rows := by
  obtain ⟨connection, connected⟩ := exists_checkOut_listing rows
  obtain ⟨bounded, isCapped⟩ :
      ∃ bounded, capped? "SELECT 1" (settings.rowLimit limit + 1) = some bounded := by
    rw [capped?, writable, Bool.or_true, if_pos rfl]
    exact ⟨_, rfl⟩
  obtain ⟨result, shown⟩ :=
    Server.exists_showing? (.ported 5433) (listing_described rows) fun row member =>
      short row (mem_of_mem_take member)
  refine ⟨result, ?_, Server.showsFirst_of_showing? (by omega) shown⟩
  rw [execute_of_resolved _ (resolvedStatement_selection settings),
    executeQuery_of_connected positive isCapped connected rfl rfl shown]
  rfl

/-- A request for more rows than are allowed is cut off at what is allowed. -/
theorem execute_withinBudget_capped :
    let settings : EngineSettings := { EngineSettings.standard with maxRows := 1 }
    let run := listing [[.int 1], [.int 2]]
    ∃ result,
      (run.execute settings (.ported 5433) (.statement "SELECT 1") [] (some 5)).1 =
          .ok result ∧
        result.rowCount ≤ 1 ∧
        result.truncated = true := by
  intro settings run
  have isLimit : settings.rowLimit (some 5) = 1 := rfl
  obtain ⟨result, answered, _⟩ :=
    execute_listing [[.int 1], [.int 2]] (Int.le_of_eq isLimit.symm)
      (by rw [isLimit]; exact Numeral.isWritable_of_lt (by decide)) (by decide)
  have yields : run.server.Yields "SELECT 1" (1 + 1) [[.int 1], [.int 2]] :=
    { whole := fun _ => rfl
      first := fun _ => rfl }
  obtain ⟨allowed, _, _, _, isResolved, truncated⟩ := execute_withinBudget answered
  rw [resolvedStatement_selection] at isResolved
  cases isResolved
  exact ⟨result, answered, allowed, (truncated _ yields).mpr (by decide)⟩

/-- A request for zero rows shows one. -/
theorem execute_zeroLimit :
    let requested : Int := 0
    let run := listing [[.int 1]]
    ∃ result,
      (run.execute .standard (.ported 5433) (.statement "SELECT 1") [] (some requested)).1 =
          .ok result ∧
        result.rowCount = 1 ∧
        ¬ result.rowCount ≤ requested := by
  intro requested run
  have isLimit : EngineSettings.standard.rowLimit (some requested) = 1000 := rfl
  obtain ⟨result, answered, shows⟩ :=
    execute_listing [[.int 1]] (by rw [isLimit]; decide)
      (by rw [isLimit]; exact Numeral.isWritable_of_lt (by decide)) (by decide)
  have count : result.rowCount = 1 := by
    rw [shows.rowCount_eq (by rw [isLimit]; decide), isLimit]
    rfl
  exact ⟨result, answered, count, by rw [count]; decide⟩

end Run

end QueryGateway
