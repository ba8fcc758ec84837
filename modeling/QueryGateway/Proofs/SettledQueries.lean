import QueryGateway.Proofs.CheckOutFailures
import QueryGateway.Proofs.ConnectionBalance

/-!
# How a query ends

A query ends in one of a few ways, each of which is told by the state of the
pools and by what is foreseen of the servers, and it never leaves a connection
behind.
-/

namespace QueryGateway

open List Sql

/-- The least number that is too long to be written cannot be put behind a statement. -/
theorem Sql.capped?_longBound
    {statement : String}
    (unsearched : holdsLimit (trimmed statement.toList) = false) :
    capped? statement (Int.pow 10 Numeral.digitBound - 1 + 1) = none := by
  have sum : Int.pow 10 Numeral.digitBound - 1 + 1 = Int.pow 10 Numeral.digitBound :=
    Int.sub_add_cancel ..
  rw [capped?, unsearched, sum, Numeral.isWritable_pow_digitBound]
  rfl

/-! ## No connection is left behind -/

theorem Server.statements_sending
    (server : Server)
    (dialect : Dialect)
    (statement : String)
    (limit : Nat) :
    (server.sending dialect statement limit).filterMap Event.statement? = [statement] := by
  rw [Server.sending]
  split <;> rfl

/-- A query leaves what is held as it is. -/
theorem Run.held_executeQuery
    (run : Run)
    (source : DataSource)
    (statement : String)
    (limit : Int) :
    (run.executeQuery source statement limit).2.session.held = run.session.held := by
  by_cases positive : 1 ≤ limit
  · rw [executeQuery_eq _ _ _ positive]
    cases capped? statement (limit + 1) with
    | none =>
        rfl
    | some bounded =>
        have kept := run.frame_checkOut source
        dsimp only
        generalize run.checkOut source = outcome at kept
        obtain ⟨failure | connection, later⟩ := outcome
        · exact congrArg (fun frame => frame.2.2.1) kept
        · have returned :=
            Run.frame_giveBack
              (later.notes
                (later.server.sending (.ofEngine true source.engine) bounded limit.toNat))
              connection
          exact (congrArg (fun frame => frame.2.2.1) returned).trans
            (congrArg (fun frame => frame.2.2.1) kept)
  · rw [executeQuery, if_pos (Int.not_le.mp positive)]

/-- Whether a step runs a statement. -/
def Step.isQuery : Step → Bool
  | .executeQuery .. => true
  | _ => false

namespace Session

variable
  (settings : EngineSettings)
  {session : Session}

theorem held_next_of_query
    {turn : Turn}
    (query : turn.step.isQuery = true) :
    (session.next settings turn).held = session.held := by
  obtain ⟨server, step⟩ := turn
  cases step with
  | executeQuery source statement limit =>
      exact Run.held_executeQuery ..
  | execute | probe | schema | getPool | evict | closeAll | hold | release | status =>
      cases query

/-- A query leaves the balance of connections as it is. -/
theorem balanced_next_of_query
    {turn : Turn}
    (query : turn.step.isQuery = true)
    (balanced : Balanced session.pools session.heldConnections) :
    Balanced (session.next settings turn).pools session.heldConnections := by
  obtain ⟨_, reached⟩ := Run.reached_step session settings turn.server turn.step
  have stepped := reached.balanced balanced
  have held : (session.next settings turn).heldConnections = session.heldConnections :=
    congrArg (map Prod.snd) (held_next_of_query settings query)
  rw [← held]
  exact stepped

/-- However many queries are run, and however they end, no connection is left behind. -/
theorem checkedOut_after_queries
    {queries : List Turn}
    (query : ∀ turn ∈ queries, turn.step.isQuery = true)
    (balanced : Balanced session.pools session.heldConnections)
    (number : Nat) :
    (session.after settings queries).checkedOut number = session.checkedOut number := by
  induction queries generalizing session with
  | nil =>
      rfl
  | cons turn queries inductionHypothesis =>
      have first : turn.step.isQuery = true := query turn (.head _)
      have stepped := balanced_next_of_query settings first balanced
      have sameHeld : (session.next settings turn).heldConnections = session.heldConnections :=
        congrArg (map Prod.snd) (held_next_of_query settings first)
      have rest :=
        inductionHypothesis (fun later listed => query later (.tail _ listed)) (sameHeld ▸ stepped)
      exact rest.trans
        ((checkedOut_eq_of_balanced stepped number).trans
          (checkedOut_eq_of_balanced balanced number).symm)

end Session

/-! ## When a pool is exhausted -/

theorem obstacle_of_exhausted
    {obstacle : Option CheckOutFailure}
    {connectError : Option String}
    {openings : List Opening}
    {size : Nat}
    {timeout : Binary64}
    {note : String}
    (exhausted :
      openingFailure? obstacle connectError openings =
        some (.connect (.exhausted size timeout note))) :
    obstacle = some (.connect (.exhausted size timeout note)) := by
  induction openings with
  | nil =>
      cases connectError <;> cases exhausted
  | cons opening rest inductionHypothesis =>
      cases opening with
      | succeeds | fails message =>
          cases exhausted
      | evicted | replaced =>
          rw [openingFailure?, Option.or_eq_some_iff] at exhausted
          rcases exhausted with found | ⟨_, later⟩
          · exact found
          · exact inductionHypothesis later

namespace Session

theorem maxSize_of_obstacle
    {session : Session}
    {server : Server}
    {failure : ConnectFailure}
    (obstacle : session.obstacle? server = some (.connect failure)) :
    session.settings.maxSize = 0 := by
  rw [obstacle?] at obstacle
  split at obstacle
  · cases obstacle
  · exact (Option.ite_none_right_eq_some.mp obstacle).1.2

/-- A pool is exhausted only if all of its connections were out before. -/
theorem full_of_exhausted
    {session : Session}
    {server : Server}
    {source : DataSource}
    {size : Nat}
    {timeout : Binary64}
    {note : String}
    (exhausted :
      session.checkOutFailure? server source =
        some (.connect (.exhausted size timeout note))) :
    session.settings.maxSize = 0 ∨
      ∃ number pool,
        session.registered? source.id = some number ∧
          session.pools[number]? = some pool ∧
          session.settings.maxSize ≤ pool.out := by
  have emptyPool
      (opened :
        openingFailure? (session.obstacle? server) server.connectError server.openings =
          some (.connect (.exhausted size timeout note))) :
      session.settings.maxSize = 0 :=
    maxSize_of_obstacle (obstacle_of_exhausted opened)
  rw [checkOutFailure?] at exhausted
  cases found : (session.registered? source.id).bind (session.pools[·]?) with
  | none =>
      rw [found] at exhausted
      rcases Option.or_eq_some_iff.mp exhausted with obstacle | ⟨_, opened⟩
      · exact .inl (maxSize_of_obstacle obstacle)
      · exact .inl (emptyPool opened)
  | some pool =>
      rw [found] at exhausted
      obtain ⟨number, registered, listed⟩ := Option.bind_eq_some_iff.mp found
      dsimp only [poolFailure?] at exhausted
      split at exhausted
      · cases exhausted
      · split at exhausted
        · rename_i full
          exact .inr ⟨number, pool, registered, listed, full.2⟩
        · exact .inl (emptyPool exhausted)

end Session

/-! ## The ways to end -/

/-- A check-out leaves the servers as they are, but for what is foreseen of openings. -/
theorem Run.reply_checkOut
    (run : Run)
    (source : DataSource)
    (id : SourceId)
    (dialect : Dialect)
    (statement : String)
    (limit : Nat) :
    (run.checkOut source).2.server.reply id dialect statement limit =
      run.server.reply id dialect statement limit := by
  have server :
      { (run.checkOut source).2.server with openings := [] } =
        { run.server with openings := [] } :=
    congrArg (fun frame => frame.2.2.2.1) (run.frame_checkOut source)
  have unforeseen (server : Server) :
      { server with openings := [] }.reply id dialect statement limit =
        server.reply id dialect statement limit := rfl
  rw [← unforeseen, server, unforeseen]

/-- A query whose bounded text can be written is answered as the check-out of a connection and the
servers have it, and is sent only if there is a connection. -/
theorem Run.executeQuery_of_bounded
    (run : Run)
    (source : DataSource)
    {statement bounded : String}
    {limit : Int}
    (consistent : run.session.Consistent)
    (positive : 1 ≤ limit)
    (bounds : capped? statement (limit + 1) = some bounded) :
    (run.executeQuery source statement limit).1 =
        (match run.session.checkOutFailure? run.server source with
        | some failure => .error (failure.toSessionError source)
        | none =>
            run.server.reply source.id (.ofEngine true source.engine) bounded limit.toNat) ∧
      (run.executeQuery source statement limit).2.log.filterMap Event.statement? =
        run.log.filterMap Event.statement? ++
          match run.session.checkOutFailure? run.server source with
          | some _ => []
          | none => [bounded] := by
  have known
      (number : Nat)
      (registered : run.session.registered? source.id = some number) :
      ∃ pool, run.session.pools[number]? = some pool ∧ pool.origin.id = source.id := by
    obtain ⟨origin, found, own⟩ := consistent.origin_of_registered? registered
    rw [Session.origins, getElem?_map] at found
    obtain ⟨pool, listed, rfl⟩ := Option.map_eq_some_iff.mp found
    exact ⟨pool, listed, own⟩
  have failure := errorOf?_checkOut known
  have frame := run.frame_checkOut source
  have answered :=
    run.reply_checkOut source source.id (.ofEngine true source.engine) bounded limit.toNat
  rw [executeQuery_eq _ _ _ positive, bounds, ← failure]
  dsimp only
  generalize run.checkOut source = outcome at frame answered
  obtain ⟨failure | connection, later⟩ := outcome
  · refine ⟨rfl, ?_⟩
    have unsent := congrArg (fun frame => frame.2.2.2.2) frame
    exact unsent.trans (append_nil _).symm
  · refine ⟨answered, ?_⟩
    have returned :=
      Run.frame_giveBack
        (later.notes (later.server.sending (.ofEngine true source.engine) bounded limit.toNat))
        connection
    have sent := congrArg (fun frame => frame.2.2.2.2) returned
    have unsent : later.log.filterMap Event.statement? = run.log.filterMap Event.statement? :=
      congrArg (fun frame => frame.2.2.2.2) frame
    refine sent.trans ?_
    dsimp only [Run.frame, notes]
    rw [filterMap_append, Server.statements_sending, unsent]
    rfl

namespace Session

/-- How a statement that is sent is answered. -/
structure SentSettled
    (server : Server)
    (source : DataSource)
    (bounded : String)
    (limit : Int)
    (answer : Except RequestError Answer) :
    Prop where
  /-- A statement that is refused is told with the source and the reason. -/
  refused :
    ∀ message,
      server.executeError = some message →
        answer = .error (.session (.execution source.id message bounded))
  /-- A statement without rows has an empty result. -/
  rowless :
    server.executeError = none →
      server.columns = none →
      answer = .ok (.rows .empty)
  /-- A column with a number that is too long to be written is told before rows are fetched. -/
  undescribed :
    ∀ descriptions,
      server.executeError = none →
        server.columns = some descriptions →
        (∃ description ∈ descriptions,
          description.column? (.ofEngine true source.engine) = none) →
        answer = .error (.session .longNumber)
  /-- Rows that cannot be fetched are told like a statement that is refused. -/
  unfetched :
    ∀ descriptions columns message,
      server.executeError = none →
        server.columns = some descriptions →
        descriptions.mapM (ColumnDescription.column? (.ofEngine true source.engine)) =
          some columns →
        server.fetchError = some (.refused message) →
        answer = .error (.session (.execution source.id message bounded))
  /-- A number that is too long to be written where rows are fetched is told as such. -/
  uncounted :
    ∀ descriptions columns,
      server.executeError = none →
        server.columns = some descriptions →
        descriptions.mapM (ColumnDescription.column? (.ofEngine true source.engine)) =
          some columns →
        server.fetchError = some .longNumber →
        answer = .error (.session .longNumber)
  /-- The first rows that are fetched make the result, each value by its cell. -/
  fetched :
    ∀ descriptions columns rows,
      server.executeError = none →
        server.columns = some descriptions →
        descriptions.mapM (ColumnDescription.column? (.ofEngine true source.engine)) =
          some columns →
        server.fetchError = none →
        (server.rows.take limit.toNat).mapM Value.toCells? = some rows →
        answer =
          .ok (.rows
            ⟨columns, rows, rows.length, .ofInt 0, decide (limit < server.rows.length)⟩)
  /-- A value without a cell, in one of these rows, holds a number that is too long. -/
  unshown :
    ∀ descriptions columns,
      server.executeError = none →
        server.columns = some descriptions →
        descriptions.mapM (ColumnDescription.column? (.ofEngine true source.engine)) =
          some columns →
        server.fetchError = none →
        (∃ row ∈ server.rows.take limit.toNat, ∃ value ∈ row, value.toCell? = none) →
        answer = .error (.session .longNumber)
  /-- There is a result if nothing is refused and all these integers are short. -/
  returned :
    ∀ descriptions,
      server.executeError = none →
        server.columns = some descriptions →
        (∀ description ∈ descriptions,
          description.name.hasShortIntegers = true ∧
            description.typeCode.hasShortIntegers = true) →
        server.fetchError = none →
        (∀ row ∈ server.rows.take limit.toNat, ∀ value ∈ row,
          value.hasShortMappings = true) →
        ∃ result, answer = .ok (.rows result)

/-- How a query with a positive limit ends, whatever is foreseen of the servers. -/
structure QuerySettled
    (session : Session)
    (server : Server)
    (source : DataSource)
    (statement : String)
    (limit : Int)
    (answer : Except RequestError Answer)
    (later : Session)
    (log : List Event) :
    Prop where
  /-- No pool has another number of connections out. -/
  checkedOut : ∀ number, later.checkedOut number = session.checkedOut number
  /-- A pool that was not disposed of has as many connections of its generation out. -/
  out :
    ∀ (number : Nat) (before after : Pool),
      session.pools[number]? = some before →
        later.pools[number]? = some after →
        after.generation = before.generation →
        after.out = before.out
  /-- A bound that is too long to be written is told before anything is done. -/
  unbounded :
    capped? statement (limit + 1) = none →
      answer = .error (.session .longNumber) ∧ later = session ∧ log = []
  /-- A pool that cannot be built is told, and nothing is sent. -/
  unbuilt :
    ∀ bounded failure,
      capped? statement (limit + 1) = some bounded →
        session.checkOutFailure? server source = some (.build failure) →
        answer = .error (.session failure.toSessionError) ∧
          log.filterMap Event.statement? = []
  /-- A connection that is not handed out is told with the source and the reason, if the port and
  the identifier of the source can be written, and nothing is sent. -/
  unconnected :
    ∀ bounded failure,
      capped? statement (limit + 1) = some bounded →
        session.checkOutFailure? server source = some (.connect failure) →
        answer =
            .error (.session (if source.hasWritablePort && source.id.isWritable then
              .connection source.id
                ("Could not connect to datasource " ++ source.id.shown ++ ": " ++ failure.message)
            else
              .longNumber)) ∧
          log.filterMap Event.statement? = []
  /-- A pool is exhausted only by connections that are held. -/
  exhausted :
    ∀ size timeout note,
      session.checkOutFailure? server source =
          some (.connect (.exhausted size timeout note)) →
        session.settings.maxSize = 0 ∨
          ∃ number pool,
            session.registered? source.id = some number ∧
              session.pools[number]? = some pool ∧
              session.settings.maxSize ≤
                session.heldConnections.count ⟨number, pool.generation⟩
  /-- What is sent over a connection that is handed out is the bounded statement. -/
  sent :
    ∀ bounded,
      capped? statement (limit + 1) = some bounded →
        session.checkOutFailure? server source = none →
        log.filterMap Event.statement? = [bounded] ∧
          SentSettled server source bounded limit answer

/-- What the servers reply settles how a statement is answered. -/
theorem sentSettled_reply
    (server : Server)
    (source : DataSource)
    (bounded : String)
    {limit : Int}
    (positive : 1 ≤ limit) :
    SentSettled server source bounded limit
      (((server.reply source.id (.ofEngine true source.engine) bounded limit.toNat).map
        Answer.rows).mapError .session) := by
  have truncated : limit.toNat < server.rows.length ↔ limit < server.rows.length := by omega
  constructor
  case refused =>
    intro message refused
    rw [Server.reply, refused]
    rfl
  case rowless =>
    intro executed rowless
    rw [Server.reply, executed, rowless]
    rfl
  case undescribed =>
    intro descriptions executed described unfound
    rw [Server.reply, executed, described]
    dsimp only
    rw [mapM_eq_none_iff.mpr unfound]
    rfl
  case unfetched =>
    intro descriptions columns message executed described found failed
    rw [Server.reply_of_described executed described found, failed]
    rfl
  case uncounted =>
    intro descriptions columns executed described found failed
    rw [Server.reply_of_described executed described found, failed]
    rfl
  case fetched =>
    intro descriptions columns rows executed described found fetched shown
    rw [Server.reply_of_described executed described found, fetched, QueryResult.ofRows?_eq,
      shown]
    simp only [truncated]
    rfl
  case unshown =>
    rintro descriptions columns executed described found fetched ⟨row, inRows, value, inRow, noCell⟩
    have noCells : Value.toCells? row = none := by
      rw [Value.toCells?_eq_mapM]
      exact mapM_eq_none_iff.mpr ⟨value, inRow, noCell⟩
    rw [Server.reply_of_described executed described found, fetched, QueryResult.ofRows?_eq,
      mapM_eq_none_iff.mpr ⟨row, inRows, noCells⟩]
    rfl
  case returned =>
    intro descriptions executed described short fetched rowsShort
    obtain ⟨columns, found⟩ :=
      exists_mapM_iff.mpr fun description member =>
        ColumnDescription.exists_column? (.ofEngine true source.engine)
          (short description member).1 (short description member).2
    obtain ⟨result, shown⟩ := QueryResult.exists_ofRows? columns rowsShort
    rw [Server.reply_of_described executed described found, fetched, shown]
    exact ⟨result, rfl⟩

/-- The step of a query whose bounded text can be written is answered as the check-out of a
connection and the servers have it. -/
theorem step_executeQuery_of_bounded
    {session : Session}
    (settings : EngineSettings)
    (consistent : session.Consistent)
    (server : Server)
    (source : DataSource)
    {statement bounded : String}
    {limit : Int}
    (positive : 1 ≤ limit)
    (bounds : capped? statement (limit + 1) = some bounded) :
    (session.step settings server (.executeQuery source statement limit)).1 =
        (match session.checkOutFailure? server source with
        | some failure => .error (.session (failure.toSessionError source))
        | none =>
            ((server.reply source.id (.ofEngine true source.engine) bounded limit.toNat).map
              Answer.rows).mapError .session) ∧
      (session.step settings server (.executeQuery source statement limit)).2.2.filterMap
          Event.statement? =
        match session.checkOutFailure? server source with
        | some _ => []
        | none => [bounded] := by
  obtain ⟨answer, sent⟩ :=
    (Run.mk session server []).executeQuery_of_bounded source consistent positive bounds
  rw [step, Run.perform]
  dsimp only
  rw [answer]
  refine ⟨?_, sent⟩
  cases session.checkOutFailure? server source <;> rfl

theorem querySettled_step
    {session : Session}
    (settings : EngineSettings)
    (consistent : session.Consistent)
    (balanced : Balanced session.pools session.heldConnections)
    (server : Server)
    (source : DataSource)
    (statement : String)
    {limit : Int}
    (positive : 1 ≤ limit) :
    QuerySettled session server source statement limit
      (session.step settings server (.executeQuery source statement limit)).1
      (session.step settings server (.executeQuery source statement limit)).2.1
      (session.step settings server (.executeQuery source statement limit)).2.2 := by
  have query : (Turn.mk server (.executeQuery source statement limit)).step.isQuery = true := rfl
  have after := balanced_next_of_query settings query balanced
  constructor
  case checkedOut =>
    exact fun number =>
      (checkedOut_eq_of_balanced after number).trans
        (checkedOut_eq_of_balanced balanced number).symm
  case out =>
    intro number before later foundBefore foundLater same
    rw [(balanced.counts foundBefore).out, (after.counts foundLater).out, same]
  case unbounded =>
    intro long
    have ended :
        (Run.mk session server []).executeQuery source statement limit =
          (.error .longNumber, ⟨session, server, []⟩) := by
      rw [Run.executeQuery_eq _ _ _ positive, long]
    rw [step, Run.perform, ended]
    exact ⟨rfl, rfl, rfl⟩
  case unbuilt =>
    intro bounded failure capped failed
    obtain ⟨answer, sent⟩ :=
      step_executeQuery_of_bounded settings consistent server source positive capped
    rw [failed] at answer sent
    exact ⟨answer, sent⟩
  case unconnected =>
    intro bounded failure capped failed
    obtain ⟨answer, sent⟩ :=
      step_executeQuery_of_bounded settings consistent server source positive capped
    have described : source.describe?.isSome = source.hasWritablePort := by
      rw [DataSource.describe?]
      cases source.hasWritablePort <;> rfl
    rw [failed] at answer sent
    dsimp only [CheckOutFailure.toSessionError] at answer
    rw [described] at answer
    exact ⟨answer, sent⟩
  case exhausted =>
    intro size timeout note failed
    rcases full_of_exhausted failed with empty | ⟨number, pool, registered, found, full⟩
    · exact .inl empty
    · rw [(balanced.counts found).out] at full
      exact .inr ⟨number, pool, registered, found, full⟩
  case sent =>
    intro bounded capped connected
    obtain ⟨answer, sent⟩ :=
      step_executeQuery_of_bounded settings consistent server source positive capped
    rw [connected] at answer sent
    refine ⟨sent, ?_⟩
    rw [answer]
    exact sentSettled_reply server source bounded positive

end Session

end QueryGateway
