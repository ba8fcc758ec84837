import QueryGateway.Proofs.PoolDeeds
import QueryGateway.Proofs.PoolRegistry

/-!
# Which pools are registered

The books of a session, and the pools that it asks for, are those of its deeds,
one turn after the other.  The pool that is registered for a source is therefore
the one that was built for its first use since one was last taken out of the
registry.
-/

namespace QueryGateway

open List Sql

namespace Run

/-! ## Using the pool of a source -/

/-- A later run that used the pool of a source, perhaps again after each eviction.  Unless there was
one, connections were handed out of the registered pool only. -/
def Served (run later : Run) (source : DataSource) (again : Bool) : Prop :=
  ∃ openings,
    Follows run later openings
        (run.server.deeds source again (run.server.evictions openings)) ∧
      (run.server.evictions openings = 0 →
        ∀ number,
          .checkedOut number ∈ later.log →
            .checkedOut number ∈ run.log ∨
              later.session.registered? source.id = some number)

section

variable
  {run holding later latest : Run}
  {source : DataSource}
  {number : Nat}

theorem Served.quietly
    {again : Bool}
    (served : Served run later source again)
    (quiet : Quiet later latest) :
    Served run latest source again := by
  obtain ⟨openings, follows, registered⟩ := served
  refine ⟨openings, follows.quietly quiet, fun calm other handedOut => ?_⟩
  have sameRegistry : latest.session.registered? source.id = later.session.registered? source.id :=
    congrArg (fun books => books.registry.lookup source.id) quiet.books
  rw [sameRegistry]
  exact registered calm other (quiet.checkedOut handedOut)

/-- A pool that cannot be built, or that is not needed, is used once only. -/
theorem served_acquirePool
    (run : Run)
    (source : DataSource)
    (again : Bool) :
    Served run (run.acquirePool source).2 source again :=
  ⟨0, run.follows_acquirePool source, fun _ _ handedOut =>
    .inl (checkedOut_of_acquirePool handedOut)⟩

section

variable
  (acquired : run.acquirePool source = (.ok number, holding))

include acquired

theorem follows_of_acquired :
    Follows run holding 0 [run.server.use source] := by
  have follows := run.follows_acquirePool source
  rwa [acquired] at follows

theorem origin_of_acquired
    (consistent : run.session.books.Consistent) :
    ∃ origin, holding.session.origins[number]? = some origin ∧ origin.id = source.id := by
  have still : holding.session.books.Consistent := by
    rw [(follows_of_acquired acquired).books]
    exact consistent.after _
  exact still.origin_of_lookup (registered?_acquirePool acquired)

/-- A pool from which nobody took it is still registered. -/
theorem registered?_of_follows
    {openings : Nat}
    (follows : Follows holding later openings []) :
    later.session.registered? source.id = some number := by
  have books : later.session.books = holding.session.books := follows.books
  have registered := registered?_acquirePool acquired
  have same : later.session.registered? source.id = holding.session.registered? source.id :=
    congrArg (fun books => books.registry.lookup source.id) books
  rwa [same]

theorem server_of_acquired :
    holding.server = run.server := by
  have server := server_acquirePool run source
  rwa [acquired] at server

theorem checkedOut_of_acquired
    {other : Nat}
    (handedOut : .checkedOut other ∈ holding.log) :
    .checkedOut other ∈ run.log := by
  have log : (run.acquirePool source).2.log = holding.log := by rw [acquired]
  exact checkedOut_of_acquirePool (log ▸ handedOut)

variable
  (consistent : run.session.books.Consistent)
  (alone : run.server.buildsAlone = true)

include consistent alone

/-- A step that uses the pool that it acquired, and does not start again. -/
theorem served_of_uses
    {hand : List Connection}
    (used : Uses holding number later hand) :
    Served run later source false := by
  obtain ⟨origin, known, own⟩ := origin_of_acquired acquired consistent
  have server := server_of_acquired acquired
  obtain ⟨openings, follows⟩ := used.follows known (server ▸ alone)
  rw [own, server] at follows
  refine ⟨openings, ?_, fun calm other handedOut => ?_⟩
  · have joined := (follows_of_acquired acquired).trans follows
    rw [Nat.zero_add] at joined
    rw [Server.deeds]
    simpa using joined
  · rw [calm] at follows
    rcases used.eq_of_checkedOut handedOut with earlier | rfl
    · exact .inl (checkedOut_of_acquired acquired earlier)
    · exact .inr (registered?_of_follows acquired follows)

/-- A round of a check-out that is the last one: nobody took the pool out of the registry. -/
theorem served_of_connect
    (last :
      (∃ failure, (holding.connect number).1 = .error failure) ∨
        (holding.connect number).2.session.registered? source.id = some number) :
    Served run (holding.connect number).2 source true := by
  obtain ⟨origin, known, own⟩ := origin_of_acquired acquired consistent
  have server := server_of_acquired acquired
  obtain ⟨openings, _, follows, refused⟩ := follows_connect known (server ▸ alone)
  have calm : holding.server.evictions openings = 0 := by
    rcases last with ⟨failure, result⟩ | registered
    · exact refused failure result
    · refine Nat.eq_zero_of_not_pos fun evicted => ?_
      have absent := Books.lookup_after_removed holding.session.books origin.id evicted
      rw [← follows.books, own] at absent
      cases registered.symm.trans absent
  rw [calm] at follows
  rw [server] at calm
  have used : Uses holding number (holding.connect number).2 _ := Uses.begun.connected
  refine ⟨openings, ?_, fun _ other handedOut => ?_⟩
  · have joined := (follows_of_acquired acquired).trans follows
    rw [Nat.zero_add] at joined
    rwa [calm]
  · rcases used.eq_of_checkedOut handedOut with earlier | rfl
    · exact .inl (checkedOut_of_acquired acquired earlier)
    · exact .inr (registered?_of_follows acquired follows)

/-- A round of a check-out after which it starts again: another caller evicted the pool, once. -/
theorem follows_of_unregistered
    (unregistered : (holding.connect number).2.session.registered? source.id ≠ some number) :
    ∃ openings,
      run.server.evictions openings = 1 ∧
        Follows run (holding.connect number).2 openings
          [run.server.use source, .removed source.id] := by
  obtain ⟨origin, known, own⟩ := origin_of_acquired acquired consistent
  have server := server_of_acquired acquired
  obtain ⟨openings, few, follows, _⟩ := follows_connect known (server ▸ alone)
  rw [own, server] at follows
  have once : run.server.evictions openings = 1 := by
    refine Nat.le_antisymm (Nat.le_trans (run.server.evictions_le openings) few)
      (Nat.pos_of_ne_zero fun calm => ?_)
    rw [calm] at follows
    exact unregistered (registered?_of_follows acquired follows)
  rw [once] at follows
  have joined := (follows_of_acquired acquired).trans follows
  rw [Nat.zero_add] at joined
  exact ⟨openings, once, joined⟩

end

/-- A check-out uses the pool of its source again each time that the pool is evicted. -/
theorem served_checkOut
    (consistent : run.session.books.Consistent)
    (alone : run.server.buildsAlone = true) :
    Served run (run.checkOut source).2 source true := by
  refine checkOut_induction
    (motive := fun run outcome =>
      run.session.books.Consistent →
        run.server.buildsAlone = true → Served run outcome.2 source true)
    ?unbuilt ?unconnected ?connected ?disturbed run consistent alone
  case unbuilt =>
    intro run later failure acquired _ _
    have served := run.served_acquirePool source true
    rwa [acquired] at served
  case unconnected =>
    intro run holding later number failure acquired refused consistent alone
    have served :=
      served_of_connect acquired consistent alone (.inl ⟨failure, by rw [refused]⟩)
    rwa [refused] at served
  case connected =>
    intro run holding later number connection acquired opened registered consistent alone
    have served :=
      served_of_connect acquired consistent alone (.inr (by rwa [opened]))
    rwa [opened] at served
  case disturbed =>
    intro run holding later number connection outcome acquired opened unregistered _
      inductionHypothesis consistent alone
    obtain ⟨openings, once, follows⟩ :=
      follows_of_unregistered acquired consistent alone (by rwa [opened])
    rw [opened] at follows
    have round :=
      (follows.quietly (quiet_giveBack later connection)).quietly (quiet_dispose _ number)
    have still : ((later.giveBack connection).dispose number).session.books.Consistent := by
      rw [round.books]
      exact consistent.after _
    obtain ⟨further, rest, _⟩ := inductionHypothesis still (round.buildsAlone alone)
    have evictions := round.evictions_add further
    rw [once] at evictions
    refine ⟨openings + further, ?_, fun calm => ?_⟩
    · have joined := round.trans rest
      rw [evictions, Server.deeds, replicate_add, flatten_append]
      rw [Server.deeds, round.use] at joined
      exact joined
    · rw [evictions] at calm
      omega

end

/-! ## Whole steps -/

section

variable
  {run : Run}
  {settings : EngineSettings}
  {step : Step}
  {source : DataSource}

theorem executeQuery_of_unbuilt
    {statement : String}
    {limit : Int}
    {target : DataSource}
    {failure : ServerFailure}
    {later : Run}
    (queried : target.queried? statement limit = some source)
    (acquired : run.acquirePool source = (.error failure, later)) :
    run.executeQuery target statement limit = (.error failure.toSessionError, later) := by
  obtain ⟨rfl, positive, bounded, capped⟩ := DataSource.queried?_eq_some_iff.mp queried
  rw [executeQuery_eq _ _ _ positive, capped, checkOut_eq, acquired]
  rfl

/-- A step whose pool cannot be built does nothing else. -/
theorem perform_of_unbuilt
    {failure : ServerFailure}
    {later : Run}
    (uses : step.source? settings = some source)
    (acquired : run.acquirePool source = (.error failure, later)) :
    run.perform settings step = (.error (.session failure.toSessionError), later) := by
  cases step with
  | executeQuery target statement limit =>
      rw [perform, executeQuery_of_unbuilt uses acquired]
      rfl
  | execute target request parameters limit =>
      rw [Step.source?] at uses
      rw [perform, execute]
      cases resolved : settings.resolvedStatement target request parameters with
      | error error =>
          rw [resolved] at uses
          cases uses
      | ok statement =>
          rw [resolved] at uses
          dsimp only
          rw [executeQuery_of_unbuilt uses acquired]
          rfl
  | schema target =>
      cases uses
      rw [perform, schemaInfo, acquired]
      rfl
  | getPool target =>
      cases uses
      rw [perform, getPool, acquired]
      rfl
  | hold target name =>
      cases uses
      rw [perform, hold, acquired]
      rfl
  | probe target | evict target | closeAll | release name | status =>
      cases uses

/-- A query that is refused before a connection is needed does nothing. -/
theorem executeQuery_of_unqueried
    {statement : String}
    {limit : Int}
    (unqueried : source.queried? statement limit = none) :
    (run.executeQuery source statement limit).2 = run := by
  by_cases positive : 1 ≤ limit
  · rw [executeQuery_eq _ _ _ positive]
    cases capped : capped? statement (limit + 1) with
    | none =>
        rfl
    | some bounded =>
        have queried : source.queried? statement limit = some source :=
          DataSource.queried?_eq_some_iff.mpr ⟨rfl, positive, bounded, capped⟩
        rw [unqueried] at queried
        cases queried
  · rw [executeQuery, if_pos (Int.not_le.mp positive)]

theorem served_executeQuery
    {statement : String}
    {limit : Int}
    {target : DataSource}
    (consistent : run.session.books.Consistent)
    (alone : run.server.buildsAlone = true)
    (queried : target.queried? statement limit = some source) :
    Served run (run.executeQuery target statement limit).2 source true := by
  obtain ⟨rfl, positive, bounded, capped⟩ := DataSource.queried?_eq_some_iff.mp queried
  have served : Served run (run.checkOut target).2 target true :=
    served_checkOut consistent alone
  rw [executeQuery_eq _ _ _ positive, capped]
  dsimp only
  generalize run.checkOut target = outcome at served
  obtain ⟨failure | connection, later⟩ := outcome
  · exact served
  · exact (served.quietly
      (quiet_notes later (later.server.sending_plain _ bounded limit.toNat))).quietly
        (quiet_giveBack ..)

/-- A step uses the pool of its source. -/
theorem served_perform
    (consistent : run.session.books.Consistent)
    (alone : run.server.buildsAlone = true)
    (uses : step.source? settings = some source) :
    Served run (run.perform settings step).2 source step.startsAgain := by
  cases step with
  | executeQuery target statement limit =>
      exact served_executeQuery consistent alone uses
  | execute target request parameters limit =>
      rw [Step.source?] at uses
      rw [perform, execute]
      cases resolved : settings.resolvedStatement target request parameters with
      | error error =>
          rw [resolved] at uses
          cases uses
      | ok statement =>
          rw [resolved] at uses
          have served := served_executeQuery consistent alone uses
          dsimp only
          generalize run.executeQuery target statement _ = outcome at served
          obtain ⟨error | result, later⟩ := outcome <;> exact served
  | schema target =>
      cases uses
      have served := run.served_acquirePool source false
      rw [perform, schemaInfo]
      cases acquired : run.acquirePool source with
      | mk outcome holding =>
          cases outcome with
          | error failure =>
              rwa [acquired] at served
          | ok number =>
              have listed :=
                served_of_uses acquired consistent alone
                  (Uses.begun.listCatalog
                    ((Dialect.ofEngine true source.engine).catalogScope source))
              dsimp only
              generalize holding.listCatalog number _ = outcome at listed
              obtain ⟨message | tables, later⟩ := outcome <;> exact listed
  | getPool target =>
      cases uses
      have served := run.served_acquirePool source false
      rw [perform, getPool]
      generalize run.acquirePool source = outcome at served
      obtain ⟨failure | number, later⟩ := outcome <;> exact served
  | hold target name =>
      cases uses
      have served := run.served_acquirePool source false
      rw [perform, hold]
      cases acquired : run.acquirePool source with
      | mk outcome holding =>
          cases outcome with
          | error failure =>
              rwa [acquired] at served
          | ok number =>
              have connected := served_of_uses acquired consistent alone Uses.begun.connected
              dsimp only
              generalize holding.connect number = outcome at connected
              obtain ⟨failure | connection, later⟩ := outcome
              · exact connected
              · exact connected.quietly (quiet_keep later name connection)
  | probe target | evict target | closeAll | release name | status =>
      cases uses

/-- The pool of a probe is built, but never registered. -/
theorem follows_probe
    (run : Run)
    (source : DataSource)
    (alone : run.server.buildsAlone = true) :
    ∃ openings,
      Follows run (run.probe source).2 openings
        (.probed source (run.server.factoryError).isNone ::
          replicate (run.server.evictions openings) (.removed source.id)) := by
  have attempted : (run.probe source).2 = (run.attemptProbe source).2 := by
    rw [probe]
    dsimp only
    split <;> rfl
  rw [attempted, attemptProbe, build_eq]
  cases run.server.factoryError with
  | some failure =>
      refine ⟨0, ?_⟩
      exact
        { opened := by simp [note, Event.isOpening]
          server := rfl
          books := rfl
          asked := by simp [note, Event.asked?]; rfl }
  | none =>
      generalize building :
        { run.note (.building source.id) with session := run.session.withPool source } = built
      have recorded : Follows run built 0 [.probed source true] := by
        rw [← building]
        exact
          { opened := by simp [note, Event.isOpening]
            server := rfl
            books := by rw [Session.books, Session.origins_withPool]; rfl
            asked := by simp [note, Event.asked?]; rfl }
      have server : built.server = run.server := recorded.server
      have origin : built.session.origins[run.session.pools.length]? = some source := by
        rw [← building, Session.origins_withPool, ← Session.length_origins]
        exact getElem?_concat_length
      obtain ⟨openings, _, connected, _⟩ := follows_connect origin (server ▸ alone)
      rw [server] at connected
      refine ⟨openings, ?_⟩
      have joined := recorded.trans connected
      rw [Nat.zero_add] at joined
      dsimp only
      generalize built.connect run.session.pools.length = outcome at joined
      obtain ⟨failure | connection, later⟩ := outcome
      · exact joined.quietly (quiet_dispose ..)
      · have plain :
            ∀ event ∈ [Event.executing (Dialect.ofEngine true source.engine).probeStatement],
              event.isPlain = true := by
          simp [Event.isPlain]
        exact ((joined.quietly (quiet_notes later plain)).quietly (quiet_giveBack ..)).quietly
          (quiet_dispose ..)

theorem follows_release
    (run : Run)
    (name : String) :
    Follows run (run.release name) 0 [] := by
  rw [release]
  cases run.session.held.lookup name with
  | none =>
      exact .refl run
  | some connection =>
      have returned :=
        quiet_giveBack
          { run with
            session :=
              { run.session with
                held := run.session.held.eraseP fun entry => entry.1 == name } }
          connection
      exact
        { opened := returned.follows.opened
          server := returned.follows.server
          books := returned.follows.books
          asked := returned.follows.asked }

/-- A statement that is refused before a connection is needed does nothing. -/
theorem execute_of_unqueried
    {target : DataSource}
    {request : Request}
    {parameters : Parameters}
    {limit : Option Int}
    (unused : (Step.execute target request parameters limit).source? settings = none) :
    (run.execute settings target request parameters limit).2 = run := by
  rw [Step.source?] at unused
  rw [execute]
  cases resolved : settings.resolvedStatement target request parameters with
  | error error =>
      rfl
  | ok statement =>
      rw [resolved] at unused
      have kept : (run.executeQuery target statement (settings.rowLimit limit)).2 = run :=
        executeQuery_of_unqueried unused
      dsimp only
      generalize run.executeQuery target statement _ = outcome at kept
      obtain ⟨error | result, later⟩ := outcome <;> exact kept

/-- What a step does to the books. -/
theorem follows_perform
    (settings : EngineSettings)
    (step : Step)
    (consistent : run.session.books.Consistent)
    (alone : run.server.buildsAlone = true) :
    ∃ openings,
      Follows run (run.perform settings step).2 openings
        (step.deeds settings run.server (run.server.evictions openings)) := by
  cases uses : step.source? settings with
  | some source =>
      obtain ⟨openings, follows, _⟩ := served_perform consistent alone uses
      refine ⟨openings, ?_⟩
      rwa [Step.deeds_of_source? uses]
  | none =>
      cases step with
      | executeQuery source statement limit =>
          have kept : (run.executeQuery source statement limit).2 = run :=
            executeQuery_of_unqueried uses
          refine ⟨0, ?_⟩
          simp only [perform, kept, Step.deeds, uses]
          exact .refl run
      | execute source request parameters limit =>
          refine ⟨0, ?_⟩
          simp only [perform, execute_of_unqueried uses, Step.deeds, uses]
          exact .refl run
      | probe source =>
          exact run.follows_probe source alone
      | evict id =>
          exact ⟨0, run.follows_evict id⟩
      | closeAll =>
          exact ⟨0, run.follows_closeAll⟩
      | release name =>
          exact ⟨0, run.follows_release name⟩
      | status =>
          refine ⟨0, ?_⟩
          rw [perform]
          cases run.session.status? <;> exact .refl run
      | schema source | getPool source | hold source name =>
          cases uses

end

end Run

/-! ## Sessions -/

namespace Session

variable
  (settings : EngineSettings)
  {session : Session}
  {turn : Turn}

theorem Consistent.origin_of_registered?
    {id : SourceId}
    {number : Nat}
    (consistent : session.Consistent)
    (registered : session.registered? id = some number) :
    ∃ source, session.origins[number]? = some source ∧ source.id = id := by
  have books : session.books.Consistent := consistent.origin
  exact books.origin_of_lookup registered

/-- A step whose pool cannot be built leaves the session alone. -/
theorem step_of_unbuilt
    (session : Session)
    {source : DataSource}
    {failure : ServerFailure}
    (uses : turn.step.source? settings = some source)
    (absent : session.registered? source.id = none)
    (unbuilt : turn.server.factoryError = some failure) :
    session.step settings turn.server turn.step =
      (.error (.session failure.toSessionError), session, [.building source.id]) := by
  have acquired := (Run.mk session turn.server []).acquirePool_eq source
  simp only [absent, unbuilt] at acquired
  rw [Session.step, Run.perform_of_unbuilt uses acquired]
  rfl

section

variable
  (consistent : session.Consistent)
  (alone : turn.server.buildsAlone = true)

include consistent alone

/-- What a turn does to the books, and which pools it asks for. -/
theorem follows_turn :
    (session.next settings turn).books =
        session.books.after
          (turn.deeds settings (session.step settings turn.server turn.step).2.2) ∧
      (session.step settings turn.server turn.step).2.2.filterMap Event.asked? =
        session.books.asked
          (turn.deeds settings (session.step settings turn.server turn.step).2.2) := by
  have begun : (Run.mk session turn.server []).session.books.Consistent := consistent.origin
  obtain ⟨openings, follows⟩ := Run.follows_perform settings turn.step begun alone
  have opened :
      (session.step settings turn.server turn.step).2.2.countP Event.isOpening = openings :=
    follows.opened.trans (Nat.zero_add openings)
  rw [Turn.deeds, Turn.evictions, opened]
  exact ⟨follows.books, follows.asked⟩

/-- Connections are handed out of the registered pool of a source only, unless another caller
evicts one. -/
theorem registered?_of_checkedOut
    {source : DataSource}
    {number : Nat}
    (uses : turn.step.source? settings = some source)
    (calm : turn.evictions (session.step settings turn.server turn.step).2.2 = 0)
    (handedOut :
      .checkedOut number ∈ (session.step settings turn.server turn.step).2.2) :
    (session.next settings turn).registered? source.id = some number := by
  have begun : (Run.mk session turn.server []).session.books.Consistent := consistent.origin
  obtain ⟨openings, follows, registered⟩ := Run.served_perform begun alone uses
  have opened :
      (session.step settings turn.server turn.step).2.2.countP Event.isOpening = openings :=
    follows.opened.trans (Nat.zero_add openings)
  rw [Turn.evictions, opened] at calm
  exact (registered calm number handedOut).resolve_left not_mem_nil

end

/-- The books of a session after some turns. -/
theorem Consistent.books_after
    {turns : List Turn}
    (consistent : session.Consistent)
    (alone : ∀ turn ∈ turns, turn.server.buildsAlone = true) :
    (session.after settings turns).books =
      session.books.after (history settings session turns) := by
  induction turns generalizing session with
  | nil =>
      rfl
  | cons turn turns inductionHypothesis =>
      have stepped := (follows_turn settings consistent (alone turn (.head _))).1
      have rest :=
        inductionHypothesis (consistent.next settings turn) fun later listed =>
          alone later (.tail _ listed)
      rw [history, Books.after_append, ← stepped]
      exact rest

/-- The source of the pool that is registered for an identifier is the one that first used a pool
since there was none. -/
theorem sourceOf?_after
    (backend : Backend)
    (bounds : PoolSettings)
    {turns : List Turn}
    (alone : ∀ turn ∈ turns, turn.server.buildsAlone = true)
    (id : SourceId) :
    ((start backend bounds).after settings turns).books.sourceOf? id =
      Deed.firstUse? id (history settings (start backend bounds) turns) := by
  have begun : (start backend bounds).Consistent := consistent_after settings backend bounds []
  rw [begun.books_after settings alone, ← Books.sourceOf?_after]
  rfl

end Session

end QueryGateway
