import QueryGateway.Proofs.CheckOuts
import QueryGateway.Proofs.MaskedSources
import QueryGateway.Proofs.PoolOperations
import QueryGateway.Proofs.SentStatements
import QueryGateway.Session.History

/-!
# Sessions with masked passwords

A session whose passwords are masked answers as the session itself and logs the
same events; masking commutes with every operation.  Two sessions whose sources
are the same once they are masked therefore cannot be told apart.
-/

namespace QueryGateway

open List Sql

/-! ## Masking -/

/-- A pool of a source with its password masked. -/
def Pool.masked (pool : Pool) : Pool :=
  { pool with origin := pool.origin.masked }

/-- A session whose pools are those of sources with masked passwords. -/
def Session.masked (session : Session) : Session :=
  { session with pools := session.pools.map Pool.masked }

/-- A step under way in a session with masked passwords. -/
def Run.masked (run : Run) : Run :=
  { run with session := run.session.masked }

/-- A step with its source masked. -/
def Step.masked : Step → Step
  | .executeQuery source statement limit => .executeQuery source.masked statement limit
  | .execute source request parameters limit =>
      .execute source.masked request parameters limit
  | .probe source => .probe source.masked
  | .schema source => .schema source.masked
  | .getPool source => .getPool source.masked
  | .evict source => .evict source
  | .closeAll => .closeAll
  | .hold source name => .hold source.masked name
  | .release name => .release name
  | .status => .status

/-- A turn with its source masked. -/
def Turn.masked (turn : Turn) : Turn :=
  { turn with step := turn.step.masked }

namespace Run

/-! ## Pools -/

/-- The pools of a masked session are the masked pools. -/
@[simp]
theorem getElem?_masked
    (run : Run)
    (number : Nat) :
    run.masked.session.pools[number]? = run.session.pools[number]?.map Pool.masked :=
  getElem?_map

/-- A pool is changed behind the mask, if the change does not read its password. -/
theorem updatePool_masked
    (run : Run)
    (number : Nat)
    (change : Pool → Pool)
    (keeps : ∀ pool, change pool.masked = (change pool).masked) :
    run.masked.updatePool number change = (run.updatePool number change).masked := by
  have pools :
      (run.session.pools.map Pool.masked).modify number change =
        (run.session.pools.modify number change).map Pool.masked := by
    refine ext_getElem? fun position => ?_
    simp only [getElem?_modify, getElem?_map]
    cases run.session.pools[position]? with
    | none =>
        rfl
    | some pool =>
        by_cases here : number = position <;> simp [here, keeps]
  simp only [updatePool, Session.updatePool, masked, Session.masked, pools]

/-- A pool is built behind the mask. -/
theorem build_masked
    (run : Run)
    (source : DataSource) :
    run.masked.build source.masked = Prod.map id masked (run.build source) := by
  have sameFailure :
      run.masked.server.factoryError =
        run.server.factoryError := rfl
  have pools :
      run.session.masked.withPool source.masked =
        (run.session.withPool source).masked := by
    simp [Session.withPool, Session.masked, Pool.fresh, Pool.masked]
  have count : run.session.masked.pools.length = run.session.pools.length :=
    length_map ..
  rw [build_eq, build_eq, sameFailure]
  cases run.server.factoryError with
  | some failure =>
      rfl
  | none =>
      change (Except.ok _, Run.mk (run.session.masked.withPool source.masked) _ _) = _
      rw [pools]
      change (Except.ok run.session.masked.pools.length, _) = _
      rw [count]
      rfl

/-- A pool is acquired behind the mask. -/
theorem acquirePool_masked
    (run : Run)
    (source : DataSource) :
    run.masked.acquirePool source.masked =
      Prod.map id masked (run.acquirePool source) := by
  have sameEntry :
      run.masked.session.registered? source.masked.id =
        run.session.registered? source.id := rfl
  rw [acquirePool, acquirePool, sameEntry, build_masked]
  cases run.session.registered? source.id with
  | some number =>
      rfl
  | none =>
      obtain ⟨result, later⟩ := run.build source
      cases result <;> rfl

/-- A pool is disposed of behind the mask. -/
theorem dispose_masked
    (run : Run)
    (number : Nat) :
    run.masked.dispose number = (run.dispose number).masked := by
  rw [dispose, dispose, getElem?_masked]
  cases run.session.pools[number]? with
  | none =>
      rfl
  | some pool =>
      dsimp only [Option.map_some]
      rw [updatePool_masked run number Pool.renewed fun _ => rfl]
      rfl

/-- A source is removed from the registry behind the mask. -/
theorem evict_masked
    (run : Run)
    (source : SourceId) :
    run.masked.evict source = Prod.map id masked (run.evict source) := by
  have sameEntry :
      run.masked.session.registered? source = run.session.registered? source := rfl
  rw [evict, evict, sameEntry]
  cases run.session.registered? source with
  | none =>
      rfl
  | some number =>
      exact congrArg (true, ·)
        (dispose_masked { run with session := run.session.without source } number)

/-- The registry is emptied behind the mask. -/
theorem closeAll_masked
    (run : Run) :
    run.masked.closeAll = Prod.map id masked run.closeAll := by
  have disposed
      (entries : List (SourceId × Nat))
      (start : Run) :
      entries.foldl (fun run entry => run.dispose entry.2) start.masked =
        (entries.foldl (fun run entry => run.dispose entry.2) start).masked := by
    induction entries generalizing start with
    | nil =>
        rfl
    | cons entry entries inductionHypothesis =>
        rw [foldl_cons, foldl_cons, dispose_masked, inductionHypothesis]
  exact congrArg (run.session.registry.length, ·)
    (disposed _ { run with session := { run.session with registry := [] } })

/-- What another caller does meanwhile is done behind the mask. -/
theorem disturb_masked
    (run : Run)
    (source : DataSource)
    (opening : Opening) :
    run.masked.disturb source.masked opening = (run.disturb source opening).masked := by
  have sameId : source.masked.id = source.id := rfl
  cases opening with
  | succeeds =>
      rfl
  | fails message =>
      rfl
  | evicted =>
      rw [disturb, disturb, sameId, evict_masked]
      rfl
  | replaced =>
      rw [disturb, disturb, sameId, evict_masked, Prod.map_snd, acquirePool_masked]
      rfl

/-! ## Connections -/

/-- A connection is opened behind the mask. -/
theorem openConnection_masked
    (run : Run)
    (number : Nat)
    (pool : Pool) :
    run.masked.openConnection number pool.masked =
      Prod.map id masked (run.openConnection number pool) := by
  have sameOpening : run.masked.server.nextOpening = run.server.nextOpening := rfl
  have taken :
      (run.masked.opened pool.masked).take number id =
        ((run.opened pool).take number id).masked :=
    congrArg (note · (.checkedOut number))
      (updatePool_masked (run.opened pool) number (Pool.lent id) fun _ => rfl)
  have disturbed (opening : Opening) :
      ((run.masked.opened pool.masked).take number id).disturb
          pool.masked.origin opening =
        (((run.opened pool).take number id).disturb pool.origin opening).masked := by
    rw [taken]
    exact disturb_masked _ pool.origin opening
  rw [openConnection_eq, openConnection_eq, sameOpening]
  cases run.server.nextOpening.1 with
  | fails message =>
      rfl
  | succeeds =>
      exact congrArg (Except.ok _, ·) (disturbed .succeeds)
  | evicted =>
      exact congrArg (Except.ok _, ·) (disturbed .evicted)
  | replaced =>
      exact congrArg (Except.ok _, ·) (disturbed .replaced)

/-- A pool is asked for a connection behind the mask. -/
theorem connect_masked
    (run : Run)
    (number : Nat) :
    run.masked.connect number = Prod.map id masked (run.connect number) := by
  cases found : run.session.pools[number]? with
  | none =>
      rw [connect, connect, getElem?_masked, found]
      rfl
  | some pool =>
      have foundMasked : run.masked.session.pools[number]? = some pool.masked := by
        rw [getElem?_masked, found]
        rfl
      rw [connect_eq found, connect_eq foundMasked, openConnection_masked]
      have taken : run.masked.take number (· - 1) = (run.take number (· - 1)).masked :=
        congrArg (note · (.checkedOut number))
          (updatePool_masked run number (Pool.lent (· - 1)) fun _ => rfl)
      rw [taken, apply_ite (Prod.map id masked), apply_ite (Prod.map id masked)]
      rfl

/-- A connection is given back behind the mask. -/
theorem giveBack_masked
    (run : Run)
    (connection : Connection) :
    run.masked.giveBack connection = (run.giveBack connection).masked := by
  cases found : run.session.pools[connection.pool]? with
  | none =>
      rw [giveBack, giveBack, getElem?_masked, found]
      rfl
  | some pool =>
      have foundMasked :
          run.masked.session.pools[connection.pool]? = some pool.masked := by
        rw [getElem?_masked, found]
        rfl
      rw [giveBack_eq found, giveBack_eq foundMasked,
        updatePool_masked run connection.pool Pool.released fun _ => rfl,
        updatePool_masked run connection.pool (Pool.regained (· + 1)) fun _ => rfl,
        updatePool_masked run connection.pool (Pool.regained id) fun _ => rfl,
        apply_ite masked, apply_ite masked]
      rfl

/-- A connection is checked out behind the mask. -/
theorem checkOut_masked
    (run : Run)
    (source : DataSource) :
    run.masked.checkOut source.masked = Prod.map id masked (run.checkOut source) := by
  refine checkOut_induction
    (motive := fun run outcome =>
      run.masked.checkOut source.masked = Prod.map id masked outcome)
    ?unbuilt ?unconnected ?connected ?disturbed run
  case unbuilt =>
    intro run later failure acquired
    rw [checkOut_eq, acquirePool_masked, acquired]
    rfl
  case unconnected =>
    intro run holding later number failure acquired refused
    rw [checkOut_eq, acquirePool_masked, acquired]
    dsimp only [Prod.map, id]
    rw [connect_masked, refused]
    rfl
  case connected =>
    intro run holding later number connection acquired opened registered
    have registeredMasked :
        later.masked.session.registered? source.masked.id = some number := registered
    rw [checkOut_eq, acquirePool_masked, acquired]
    dsimp only [Prod.map, id]
    rw [connect_masked, opened]
    dsimp only [Prod.map, id]
    rw [if_pos registeredMasked]
  case disturbed =>
    intro run holding later number connection outcome acquired opened replaced _
      inductionHypothesis
    have replacedMasked :
        later.masked.session.registered? source.masked.id ≠ some number := replaced
    rw [checkOut_eq, acquirePool_masked, acquired]
    dsimp only [Prod.map, id]
    rw [connect_masked, opened]
    dsimp only [Prod.map, id]
    rw [if_neg replacedMasked, giveBack_masked, dispose_masked]
    exact inductionHypothesis

/-! ## Steps -/

/-- A statement is run behind the mask. -/
theorem executeQuery_masked
    (run : Run)
    (source : DataSource)
    (statement : String)
    (limit : Int) :
    run.masked.executeQuery source.masked statement limit =
      Prod.map id masked (run.executeQuery source statement limit) := by
  by_cases positive : 1 ≤ limit
  · rw [executeQuery_eq _ _ _ positive, executeQuery_eq _ _ _ positive]
    cases capped? statement (limit + 1) with
    | none =>
        rfl
    | some bounded =>
        dsimp only
        rw [checkOut_masked]
        obtain ⟨checked, later⟩ := run.checkOut source
        cases checked with
        | error failure =>
            rfl
        | ok connection =>
            exact congrArg (later.server.reply _ _ bounded _, ·)
              (giveBack_masked (later.notes _) connection)
  · rw [executeQuery, executeQuery, if_pos (Int.not_le.mp positive),
      if_pos (Int.not_le.mp positive)]
    rfl

/-- A request is executed behind the mask. -/
theorem execute_masked
    (run : Run)
    (settings : EngineSettings)
    (source : DataSource)
    (request : Request)
    (parameters : Parameters)
    (limit : Option Int) :
    run.masked.execute settings source.masked request parameters limit =
      Prod.map id masked (run.execute settings source request parameters limit) := by
  have sameStatement :
      settings.resolvedStatement source.masked request parameters =
        settings.resolvedStatement source request parameters := rfl
  rw [execute, execute, sameStatement]
  cases settings.resolvedStatement source request parameters with
  | error error =>
      rfl
  | ok statement =>
      dsimp only
      rw [executeQuery_masked]
      obtain ⟨answer, later⟩ :=
        run.executeQuery source statement (settings.rowLimit limit)
      cases answer <;> rfl

/-- A source is probed behind the mask, and its description hides the password. -/
theorem probe_masked
    (run : Run)
    (source : DataSource) :
    run.masked.probe source.masked = Prod.map id masked (run.probe source) := by
  have attempted :
      run.masked.attemptProbe source.masked =
        Prod.map id masked (run.attemptProbe source) := by
    rw [attemptProbe, attemptProbe, build_masked]
    obtain ⟨built, later⟩ := run.build source
    cases built with
    | error failure =>
        rfl
    | ok number =>
        dsimp only [Prod.map, id]
        rw [connect_masked]
        obtain ⟨connected, latest⟩ := later.connect number
        cases connected with
        | error failure =>
            exact congrArg (ProbeResult.failed failure.message, ·)
              (latest.dispose_masked number)
        | ok connection =>
            dsimp only [Prod.map, id]
            have sameNote (event : Event) :
                latest.masked.note event = (latest.note event).masked := rfl
            rw [sameNote, giveBack_masked, dispose_masked]
            rfl
  have sameDescription : source.masked.describe?.isSome = source.describe?.isSome := rfl
  rw [probe, probe, attempted, sameDescription]
  obtain ⟨result, later⟩ := run.attemptProbe source
  dsimp only [Prod.map, id]
  cases result.success || source.describe?.isSome <;> rfl

/-- A question to the catalog is asked behind the mask. -/
theorem askCatalog_masked
    (run : Run)
    (number : Nat)
    (event : Event)
    (answer : Catalog → Except String α) :
    run.masked.askCatalog number event answer =
      Prod.map id masked (run.askCatalog number event answer) := by
  rw [askCatalog, askCatalog, connect_masked]
  obtain ⟨connected, later⟩ := run.connect number
  cases connected with
  | error failure =>
      rfl
  | ok connection =>
      exact congrArg (answer later.server.catalog, ·)
        (giveBack_masked (later.note event) connection)

/-- A checked-out connection is asked for what it lists behind the mask. -/
theorem inspect_masked
    (run : Run)
    (number : Nat) :
    run.masked.inspect number = Prod.map id masked (run.inspect number) := by
  rw [inspect, inspect, connect_masked]
  obtain ⟨connected, later⟩ := run.connect number
  cases connected with
  | error failure =>
      rfl
  | ok connection =>
      exact congrArg (Except.ok (), ·) (giveBack_masked later connection)

/-- The columns of some relations are listed behind the mask. -/
theorem listColumns_masked
    (number : Nat)
    (scope kind : String)
    (names : List String)
    (run : Run) :
    listColumns number scope kind names run.masked =
      Prod.map id masked (listColumns number scope kind names run) := by
  induction names generalizing run with
  | nil =>
      rfl
  | cons name rest inductionHypothesis =>
      rw [listColumns, listColumns, askCatalog_masked]
      obtain ⟨asked, later⟩ :=
        run.askCatalog number (.listingColumns scope name) (·.columnsOf name)
      cases asked with
      | error message =>
          rfl
      | ok columns =>
          dsimp only [Prod.map, id]
          rw [inductionHypothesis]
          obtain ⟨listed, latest⟩ := listColumns number scope kind rest later
          cases listed <;> rfl

/-- A catalog is listed behind the mask. -/
theorem listCatalog_masked
    (run : Run)
    (number : Nat)
    (scope : String) :
    run.masked.listCatalog number scope =
      Prod.map id masked (run.listCatalog number scope) := by
  rw [listCatalog, listCatalog, inspect_masked]
  obtain ⟨inspected, later⟩ := run.inspect number
  cases inspected with
  | error message =>
      rfl
  | ok _ =>
      dsimp only [Prod.map, id]
      rw [askCatalog_masked]
      obtain ⟨asked, later⟩ := later.askCatalog number (.listingViews scope) Catalog.views
      cases asked with
      | error message =>
          rfl
      | ok views =>
          dsimp only [Prod.map, id]
          rw [askCatalog_masked]
          obtain ⟨asked, later⟩ :=
            later.askCatalog number (.listingTables scope) Catalog.tables
          cases asked with
          | error message =>
              rfl
          | ok tables =>
              dsimp only [Prod.map, id]
              rw [listColumns_masked]
              generalize orderedNames (tables.filter fun name => !views.contains name) = names
              obtain ⟨listed, later⟩ := listColumns number scope "TABLE" names later
              cases listed with
              | error message =>
                  rfl
              | ok tables =>
                  dsimp only [Prod.map, id]
                  rw [listColumns_masked]
                  obtain ⟨listed, later⟩ :=
                    listColumns number scope "VIEW" (orderedNames views) later
                  cases listed <;> rfl

/-- A schema is listed behind the mask. -/
theorem schemaInfo_masked
    (run : Run)
    (source : DataSource) :
    run.masked.schemaInfo source.masked = Prod.map id masked (run.schemaInfo source) := by
  have sameScope :
      (Dialect.ofEngine true source.masked.engine).catalogScope source.masked =
        (Dialect.ofEngine true source.engine).catalogScope source := by
    change (Dialect.ofEngine true source.engine).catalogScope source.masked = _
    cases Dialect.ofEngine true source.engine <;> rfl
  rw [schemaInfo, schemaInfo, acquirePool_masked, sameScope]
  obtain ⟨acquired, later⟩ := run.acquirePool source
  cases acquired with
  | error failure =>
      rfl
  | ok number =>
      dsimp only [Prod.map, id]
      rw [listCatalog_masked]
      obtain ⟨listed, latest⟩ :=
        later.listCatalog number ((Dialect.ofEngine true source.engine).catalogScope source)
      cases listed <;> rfl

/-- A pool is asked for behind the mask. -/
theorem getPool_masked
    (run : Run)
    (source : DataSource) :
    run.masked.getPool source.masked = Prod.map id masked (run.getPool source) := by
  have sameEntry :
      run.masked.session.registered? source.masked.id =
        run.session.registered? source.id := rfl
  rw [getPool, getPool, sameEntry, acquirePool_masked]
  obtain ⟨acquired, later⟩ := run.acquirePool source
  cases acquired <;> rfl

/-- A connection is held behind the mask. -/
theorem hold_masked
    (run : Run)
    (source : DataSource)
    (name : String) :
    run.masked.hold source.masked name = Prod.map id masked (run.hold source name) := by
  rw [hold, hold, acquirePool_masked]
  obtain ⟨acquired, later⟩ := run.acquirePool source
  cases acquired with
  | error failure =>
      rfl
  | ok number =>
      dsimp only [Prod.map, id]
      rw [connect_masked]
      obtain ⟨connected, latest⟩ := later.connect number
      cases connected <;> rfl

/-- A name is released behind the mask. -/
theorem release_masked
    (run : Run)
    (name : String) :
    run.masked.release name = (run.release name).masked := by
  have sameHeld : run.masked.session.held = run.session.held := rfl
  rw [release, release, sameHeld]
  cases run.session.held.lookup name with
  | none =>
      rfl
  | some connection =>
      exact giveBack_masked
        { run with
          session :=
            { run.session with
              held := run.session.held.eraseP fun entry => entry.1 == name } }
        connection

end Run

/-! ## Whole sessions -/

/-- The status of a pool shows the address of its source, but not the password. -/
theorem Pool.status?_masked
    (pool : Pool)
    (session : Session)
    (source : SourceId) :
    pool.masked.status? session.masked source = pool.status? session source := by
  have sameOrigin : pool.masked.origin.masked = pool.origin.masked := by
    simp only [masked, DataSource.masked_masked]
  have sameText :
      (pool.masked.address session.backend.scheme).text? true =
        (pool.address session.backend.scheme).text? true :=
    DataSource.hiddenText_of_same _ _ sameOrigin
  rw [status?, status?]
  change Option.map _ ((pool.masked.address session.backend.scheme).text? true) = _
  rw [sameText]
  rfl

/-- The registered pools of a masked session are the masked ones. -/
theorem Session.registeredPools_masked
    (session : Session) :
    session.masked.registeredPools =
      session.registeredPools.map (Prod.map id Pool.masked) := by
  rw [registeredPools, registeredPools, map_filterMap]
  congr 1
  funext ⟨source, number⟩
  change Option.map _ (session.pools.map Pool.masked)[number]? = _
  rw [getElem?_map, Option.map_map, Option.map_map]
  rfl

/-- The status of a session shows no password. -/
theorem Session.status?_masked
    (session : Session) :
    session.masked.status? = session.status? := by
  have sameState :
      (fun entry : SourceId × Pool => entry.2.status? session.masked entry.1) ∘
          Prod.map id Pool.masked =
        fun entry => entry.2.status? session entry.1 :=
    funext fun (source, pool) => pool.status?_masked session source
  rw [status?, status?, registeredPools_masked, mapM_map]
  simp only [sameState]

/-- Masking the passwords of a session and of a step changes no answer and no event. -/
theorem Session.step_masked
    (session : Session)
    (settings : EngineSettings)
    (server : Server)
    (step : Step) :
    session.masked.step settings server step.masked =
      Prod.map id (Prod.map masked id) (session.step settings server step) := by
  have performed :
      (Run.mk session server []).masked.perform settings step.masked =
        Prod.map id Run.masked ((Run.mk session server []).perform settings step) := by
    generalize Run.mk session server [] = run
    cases step with
    | executeQuery source statement limit =>
        rw [Step.masked, Run.perform, Run.perform, Run.executeQuery_masked]
        rfl
    | execute source request parameters limit =>
        rw [Step.masked, Run.perform, Run.perform, Run.execute_masked]
        rfl
    | probe source =>
        rw [Step.masked, Run.perform, Run.perform, Run.probe_masked]
        rfl
    | schema source =>
        rw [Step.masked, Run.perform, Run.perform, Run.schemaInfo_masked]
        rfl
    | getPool source =>
        rw [Step.masked, Run.perform, Run.perform, Run.getPool_masked]
        rfl
    | evict source =>
        rw [Step.masked, Run.perform, Run.perform, Run.evict_masked]
        rfl
    | closeAll =>
        rw [Step.masked, Run.perform, Run.perform, Run.closeAll_masked]
        rfl
    | hold source name =>
        rw [Step.masked, Run.perform, Run.perform, Run.hold_masked]
        rfl
    | release name =>
        rw [Step.masked, Run.perform, Run.perform, Run.release_masked]
        rfl
    | status =>
        have sameStatus : run.masked.session.status? = run.session.status? :=
          run.session.status?_masked
        rw [Step.masked, Run.perform, Run.perform, sameStatus]
        cases run.session.status? <;> rfl
  have atStart :
      Run.mk session.masked server [] = (Run.mk session server []).masked :=
    rfl
  rw [Session.step, Session.step, atStart, performed]
  rfl

/-- Masking all passwords changes no answer and no event of a session over many steps. -/
theorem Session.replies_masked
    (settings : EngineSettings)
    (session : Session)
    (turns : List Turn) :
    replies settings session.masked (turns.map Turn.masked) =
      replies settings session turns := by
  induction turns generalizing session with
  | nil =>
      rfl
  | cons turn turns inductionHypothesis =>
      have stepped :
          session.masked.step settings turn.masked.server turn.masked.step =
            Prod.map id (Prod.map masked id)
              (session.step settings turn.server turn.step) :=
        session.step_masked settings turn.server turn.step
      rw [map_cons, replies, replies, stepped]
      exact congrArg (_ :: ·) (inductionHypothesis _)

/-- Two sessions whose sources are the same once masked give the same answers with the same events,
and their sources are described, dumped and set up alike; only the address that a driver connects
to, where somebody logs in, tells the passwords apart. -/
theorem Session.replies_of_same_masked
    (backend : Backend)
    (bounds : PoolSettings)
    (settings : EngineSettings)
    {first second : List Turn}
    (same : first.map Turn.masked = second.map Turn.masked) :
    replies settings (start backend bounds) first =
        replies settings (start backend bounds) second ∧
      ∀ source other : DataSource,
        source.masked = other.masked →
          source.describe? = other.describe? ∧
          source.dump = other.dump ∧
          (∀ driver defaultPort,
            (source.address driver defaultPort).text? true =
              (other.address driver defaultPort).text? true) ∧
          (∀ dialect,
            { source.poolSetup dialect bounds with
                address := (other.poolSetup dialect bounds).address } =
              other.poolSetup dialect bounds) ∧
          (∀ driver defaultPort,
            (source.address driver defaultPort).text false =
                (other.address driver defaultPort).text false ↔
              source.username = none ∨ source.password = other.password) := by
  have started : (start backend bounds).masked = start backend bounds := rfl
  constructor
  · rw [← replies_masked settings _ first, ← replies_masked settings _ second, same]
  · intro source other sameSource
    obtain ⟨described, dumped, _⟩ := source.shown_masked
    obtain ⟨otherDescribed, otherDumped, _⟩ := other.shown_masked
    rw [sameSource] at described dumped
    exact ⟨described.symm.trans otherDescribed, dumped.symm.trans otherDumped,
      fun driver defaultPort =>
        DataSource.hiddenText_of_same driver defaultPort sameSource,
      fun dialect => DataSource.poolSetup_of_same sameSource dialect bounds,
      fun driver defaultPort =>
        DataSource.shownText_eq_iff_of_same driver defaultPort sameSource⟩

/-- A source that is logged in to with a password. -/
def DataSource.guarded (password : String) : DataSource where
  id := .text "ds"
  engine := .postgresql
  host := "localhost"
  port := none
  database := "main"
  username := some "reader"
  password := some password
  schema := none
  options := []

/-- A pool that is built and listed, with one password and with another. -/
theorem Session.replies_of_same_masked_listed :
    let turns (password : String) : List Turn :=
      [⟨.willing, .getPool (.guarded password)⟩, ⟨.willing, .status⟩]
    let backend : Backend := ⟨"postgresql", true, ""⟩
    (turns "swordfish").map Turn.masked = (turns "sesame").map Turn.masked ∧
      replies .standard (start backend .standard) (turns "swordfish") =
        replies .standard (start backend .standard) (turns "sesame") ∧
      ((DataSource.guarded "swordfish").address "postgresql" none).text false ≠
        ((DataSource.guarded "sesame").address "postgresql" none).text false := by
  have sameTurns :
      [Turn.mk .willing (.getPool (.guarded "swordfish")), ⟨.willing, .status⟩].map
          Turn.masked =
        [Turn.mk .willing (.getPool (.guarded "sesame")), ⟨.willing, .status⟩].map
          Turn.masked := rfl
  obtain ⟨sameReplies, sameSources⟩ :=
    replies_of_same_masked ⟨"postgresql", true, ""⟩ .standard .standard sameTurns
  obtain ⟨_, _, _, _, toldApart⟩ :=
    sameSources (.guarded "swordfish") (.guarded "sesame") rfl
  refine ⟨sameTurns, sameReplies, fun sameText => ?_⟩
  rcases (toldApart "postgresql" none).mp sameText with nobody | samePassword
  · cases nobody
  · exact absurd samePassword (by decide)

end QueryGateway
