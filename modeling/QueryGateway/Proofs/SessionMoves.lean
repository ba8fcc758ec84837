import QueryGateway.Proofs.CheckOuts
import QueryGateway.Proofs.PoolOperations
import QueryGateway.Proofs.SentStatements
import QueryGateway.Session.History

/-!
# The moves of a step

A step of a session is a sequence of moves, each of which changes one thing.
While it is under way a step has connections in hand, and pools that are not
registered; `reached_step` says that it ends with neither.  What holds of every
step is proved by induction on its moves.
-/

namespace QueryGateway

open Sql

/-- Whether an event tells nothing of which pools there are and how they are used. -/
def Event.isPlain : Event → Bool
  | .building _ | .opening _ | .checkedOut _ | .disposed _ => false
  | _ => true

/-- A pool that a step may use: one that is registered when the step begins, or one that is built
later. -/
def Session.Offers
    (session : Session)
    (number : Nat) :
    Prop :=
  number ∈ session.registry.map Prod.snd ∨ session.pools.length ≤ number

/-- What the server logs while a statement runs hands no connection out. -/
theorem Server.sending_plain
    (server : Server)
    (dialect : Dialect)
    (statement : String)
    (limit : Nat) :
    ∀ event ∈ server.sending dialect statement limit, event.isPlain = true := by
  rw [Server.sending]
  split <;> simp [Event.isPlain]

/-- The sources that the pools of a session were built for. -/
def Session.origins (session : Session) : List DataSource :=
  session.pools.map Pool.origin

/-- A session has one origin for each pool it ever built. -/
@[simp]
theorem Session.length_origins
    (session : Session) :
    session.origins.length = session.pools.length :=
  List.length_map ..

/-- A pool that is added has its source as the newest origin. -/
@[simp]
theorem Session.origins_withPool
    (session : Session)
    (source : DataSource) :
    (session.withPool source).origins = session.origins ++ [source] :=
  List.map_append

/-- A registered pool stands in the registry under its source. -/
theorem Session.mem_of_registered?
    {session : Session}
    {source : SourceId}
    {number : Nat}
    (registered : session.registered? source = some number) :
    (source, number) ∈ session.registry := by
  obtain ⟨earlier, later, shape, _⟩ := List.lookup_eq_some_iff.mp registered
  rw [shape]
  exact List.mem_append_right earlier (.head later)

namespace Run

/-- A run in which one of the connections that are out is kept under a name. -/
def keep (run : Run) (name : String) (connection : Connection) : Run :=
  { run with
    session := { run.session with held := (name, connection) :: run.session.held } }

/-- A pool that is built has the next number. -/
theorem number_of_build
    {run later : Run}
    {source : DataSource}
    {number : Nat}
    (built : run.build source = (.ok number, later)) :
    number = run.session.pools.length := by
  rw [build_eq] at built
  split at built <;> cases built
  rfl

/-! ## Using one pool -/

/-- What comes of a run while the connections of one pool are used, with the connections that are
in hand. -/
inductive Uses
    (start : Run)
    (number : Nat) :
    Run → List Connection → Prop where
  | begun :
      Uses start number start []
  | noted
      {run : Run}
      {hand : List Connection}
      {events : List Event}
      (plain : ∀ event ∈ events, event.isPlain = true) :
      Uses start number run hand →
      Uses start number (run.notes events) hand
  | connected
      {run : Run}
      {hand : List Connection} :
      Uses start number run hand →
      Uses start number (run.connect number).2 ((run.connect number).1.toOption.toList ++ hand)
  | givenBack
      {run : Run}
      {hand : List Connection}
      {connection : Connection} :
      Uses start number run (connection :: hand) →
      Uses start number (run.giveBack connection) hand
  | kept
      {run : Run}
      {hand : List Connection}
      {connection : Connection}
      (name : String) :
      Uses start number run (connection :: hand) →
      Uses start number (run.keep name connection) hand

namespace Uses

variable
  {start run : Run}
  {number : Nat}
  {hand : List Connection}

/-- Asking a checked-out connection what it lists leaves the pools as they were. -/
theorem inspect
    (used : Uses start number run hand) :
    Uses start number (run.inspect number).2 hand := by
  have connected := used.connected
  rw [Run.inspect]
  generalize run.connect number = outcome at connected
  obtain ⟨failure | connection, later⟩ := outcome
  · exact connected
  · exact connected.givenBack

/-- A question to the catalog is only logged. -/
theorem askCatalog
    (used : Uses start number run hand)
    (event : Event)
    (plain : event.isPlain = true)
    (answer : Catalog → Except String α) :
    Uses start number (run.askCatalog number event answer).2 hand := by
  have connected := used.connected
  rw [Run.askCatalog]
  generalize run.connect number = outcome at connected
  obtain ⟨failure | connection, later⟩ := outcome
  · exact connected
  · have noted : ∀ later ∈ [event], later.isPlain = true := by simpa using plain
    exact (connected.noted noted).givenBack

/-- Listing the columns of some relations uses the connection only to ask. -/
theorem listColumns
    (used : Uses start number run hand)
    (scope kind : String)
    (names : List String) :
    Uses start number (Run.listColumns number scope kind names run).2 hand := by
  induction names generalizing run with
  | nil =>
      exact used
  | cons name rest inductionHypothesis =>
      have asked := used.askCatalog (.listingColumns scope name) rfl (·.columnsOf name)
      rw [Run.listColumns]
      generalize run.askCatalog number _ _ = outcome at asked
      obtain ⟨message | columns, later⟩ := outcome
      · exact asked
      · have listed := inductionHypothesis asked
        dsimp only
        generalize Run.listColumns number scope kind rest later = outcome at listed
        obtain ⟨message | tables, latest⟩ := outcome <;> exact listed

/-- Listing a whole catalog uses the connection only to ask. -/
theorem listCatalog
    (used : Uses start number run hand)
    (scope : String) :
    Uses start number (run.listCatalog number scope).2 hand := by
  have inspected := used.inspect
  rw [Run.listCatalog]
  generalize run.inspect number = outcome at inspected
  obtain ⟨message | _, later⟩ := outcome
  · exact inspected
  have asked := inspected.askCatalog (.listingViews scope) rfl Catalog.views
  dsimp only
  generalize later.askCatalog number _ _ = outcome at asked
  obtain ⟨message | views, later⟩ := outcome
  · exact asked
  have asked := asked.askCatalog (.listingTables scope) rfl Catalog.tables
  dsimp only
  generalize later.askCatalog number _ _ = outcome at asked
  obtain ⟨message | tables, later⟩ := outcome
  · exact asked
  have listed :=
    asked.listColumns scope "TABLE" (orderedNames (tables.filter fun name => !views.contains name))
  dsimp only
  generalize Run.listColumns number scope "TABLE" _ later = outcome at listed
  obtain ⟨message | tables, later⟩ := outcome
  · exact listed
  have listed := listed.listColumns scope "VIEW" (orderedNames views)
  dsimp only
  generalize Run.listColumns number scope "VIEW" _ later = outcome at listed
  obtain ⟨message | views, later⟩ := outcome <;> exact listed

end Uses

/-! ## Whole steps -/

/-- What comes of a session in the course of a step, with the connections that are in hand and the
pools that are not registered. -/
inductive Reached
    (start : Session) :
    Run → List Connection → List Nat → Prop where
  | begun
      (server : Server) :
      Reached start ⟨start, server, []⟩ [] []
  | noted
      {run : Run}
      {hand : List Connection}
      {own : List Nat}
      {events : List Event}
      (plain : ∀ event ∈ events, event.isPlain = true) :
      Reached start run hand own →
      Reached start (run.notes events) hand own
  | asked
      {run : Run}
      {hand : List Connection}
      {own : List Nat}
      (source : SourceId) :
      Reached start run hand own →
      Reached start (run.note (.building source)) hand own
  | opened
      {run : Run}
      {hand : List Connection}
      {own : List Nat}
      (pool : Pool) :
      Reached start run hand own →
      Reached start (run.opened pool) hand own
  | built
      {run : Run}
      {hand : List Connection}
      {own : List Nat}
      (source : DataSource) :
      Reached start run hand own →
      Reached start { run with session := run.session.withPool source } hand
        (run.session.pools.length :: own)
  | added
      {run : Run}
      {hand : List Connection}
      {own : List Nat}
      {source : DataSource}
      (absent : run.session.registered? source.id = none) :
      Reached start run hand own →
      Reached start
        ({ run with session := run.session.withPool source }.register source.id
          run.session.pools.length)
        hand own
  | removed
      {run : Run}
      {hand : List Connection}
      {own : List Nat}
      {source : SourceId}
      {number : Nat}
      (registered : run.session.registered? source = some number) :
      Reached start run hand own →
      Reached start { run with session := run.session.without source } hand (number :: own)
  | cleared
      {run : Run}
      {hand : List Connection}
      {own : List Nat} :
      Reached start run hand own →
      Reached start { run with session := { run.session with registry := [] } } hand
        (run.session.registry.map Prod.snd ++ own)
  | disposed
      {run : Run}
      {hand : List Connection}
      {own : List Nat}
      (number : Nat) :
      Reached start run hand own →
      Reached start (run.dispose number) hand (own.erase number)
  | taken
      {run : Run}
      {hand : List Connection}
      {own : List Nat}
      {number : Nat}
      {pool : Pool}
      (offered : start.Offers number)
      (found : run.session.pools[number]? = some pool)
      (idle : Nat → Nat) :
      Reached start run hand own →
      Reached start (run.take number idle) (⟨number, pool.generation⟩ :: hand) own
  | givenBack
      {run : Run}
      {hand : List Connection}
      {own : List Nat}
      {connection : Connection} :
      Reached start run (connection :: hand) own →
      Reached start (run.giveBack connection) hand own
  | kept
      {run : Run}
      {hand : List Connection}
      {own : List Nat}
      {connection : Connection}
      (name : String) :
      Reached start run (connection :: hand) own →
      Reached start (run.keep name connection) hand own
  | letGo
      {run : Run}
      {hand : List Connection}
      {own : List Nat}
      {name : String}
      {connection : Connection}
      (held : run.session.held.lookup name = some connection) :
      Reached start run hand own →
      Reached start
        { run with
          session :=
            { run.session with
              held := run.session.held.eraseP fun entry => entry.1 == name } }
        (connection :: hand) own

/-- A change of a pool that keeps its origin keeps every origin. -/
theorem origins_updatePool
    (run : Run)
    (number : Nat)
    {change : Pool → Pool}
    (keeps : ∀ pool, (change pool).origin = pool.origin) :
    (run.updatePool number change).session.origins = run.session.origins := by
  refine List.ext_getElem? fun position => ?_
  simp only [updatePool, Session.updatePool, Session.origins, List.getElem?_map,
    List.getElem?_modify]
  cases run.session.pools[position]? with
  | none =>
      rfl
  | some pool =>
      by_cases here : number = position <;> simp [here, keeps]

/-- Taking an idle connection keeps every origin. -/
@[simp]
theorem origins_take
    (run : Run)
    (number : Nat)
    (idle : Nat → Nat) :
    (run.take number idle).session.origins = run.session.origins :=
  run.origins_updatePool number fun _ => rfl

/-- Registering a pool keeps every origin. -/
@[simp]
theorem origins_register
    (run : Run)
    (source : SourceId)
    (number : Nat) :
    (run.register source number).session.origins = run.session.origins := rfl

/-- Disposing of a pool keeps every origin. -/
@[simp]
theorem origins_dispose
    (run : Run)
    (number : Nat) :
    (run.dispose number).session.origins = run.session.origins := by
  rw [dispose]
  cases run.session.pools[number]? with
  | none =>
      rfl
  | some pool =>
      exact run.origins_updatePool number fun _ => rfl

/-- Disposing of a pool leaves the registry alone. -/
@[simp]
theorem registry_dispose
    (run : Run)
    (number : Nat) :
    (run.dispose number).session.registry = run.session.registry := by
  rw [dispose]
  cases run.session.pools[number]? <;> rfl

/-- Giving a connection back keeps every origin. -/
@[simp]
theorem origins_giveBack
    (run : Run)
    (connection : Connection) :
    (run.giveBack connection).session.origins = run.session.origins := by
  cases found : run.session.pools[connection.pool]? with
  | none =>
      rw [giveBack, found]
  | some pool =>
      rw [giveBack_eq found]
      split
      · exact run.origins_updatePool connection.pool fun _ => rfl
      · split <;> exact run.origins_updatePool connection.pool fun _ => rfl

/-- Giving a connection back leaves the registry alone. -/
@[simp]
theorem registry_giveBack
    (run : Run)
    (connection : Connection) :
    (run.giveBack connection).session.registry = run.session.registry := by
  cases found : run.session.pools[connection.pool]? with
  | none =>
      rw [giveBack, found]
  | some pool =>
      rw [giveBack_eq found]
      split
      · rfl
      · split <;> rfl

/-- Disposing of a pool is put on record. -/
theorem log_dispose
    (run : Run)
    (number : Nat) :
    ∃ events,
      (run.dispose number).log = run.log ++ events ∧
        (∀ event ∈ events, event.isPlain = true ∨ event = .disposed number) ∧
        (number < run.session.origins.length → .disposed number ∈ events) := by
  rw [dispose, Session.length_origins]
  cases found : run.session.pools[number]? with
  | none =>
      refine ⟨[], (List.append_nil _).symm, by simp, fun known => ?_⟩
      rw [List.getElem?_eq_getElem known] at found
      cases found
  | some pool =>
      refine ⟨List.replicate pool.idle (.closing pool.origin.id) ++ [.disposed number],
        List.append_assoc .., fun event listed => ?_, by simp⟩
      rcases List.mem_append.mp listed with closed | last
      · rw [(List.mem_replicate.mp closed).2]
        exact .inl rfl
      · exact .inr (List.mem_singleton.mp last)

/-- A connection that is given back leaves the use of other connections alone. -/
theorem log_giveBack
    (run : Run)
    (connection : Connection) :
    ∃ events,
      (run.giveBack connection).log = run.log ++ events ∧
        ∀ event ∈ events, event.isPlain = true := by
  cases found : run.session.pools[connection.pool]? with
  | none =>
      refine ⟨[], ?_, by simp⟩
      rw [giveBack, found, List.append_nil]
  | some pool =>
      rw [giveBack_eq found]
      split
      · exact ⟨[.returned connection.pool], rfl, by simp [Event.isPlain]⟩
      · split
        · exact ⟨[.returned connection.pool], rfl, by simp [Event.isPlain]⟩
        · exact ⟨[.returned connection.pool, .closing pool.origin.id],
            List.append_assoc .., by simp [Event.isPlain]⟩

namespace Reached

variable
  {start : Session}
  {run : Run}
  {hand : List Connection}
  {own : List Nat}

/-- Pools are never forgotten, and stay what they were built for. -/
theorem origins_prefix
    (reached : Reached start run hand own) :
    start.origins <+: run.session.origins := by
  induction reached with
  | begun server =>
      exact List.prefix_rfl
  | noted plain reached inductionHypothesis =>
      exact inductionHypothesis
  | asked source reached inductionHypothesis =>
      exact inductionHypothesis
  | opened pool reached inductionHypothesis =>
      exact inductionHypothesis
  | built source reached inductionHypothesis =>
      rw [Session.origins_withPool]
      exact inductionHypothesis.trans (List.prefix_append ..)
  | added absent reached inductionHypothesis =>
      rw [origins_register, Session.origins_withPool]
      exact inductionHypothesis.trans (List.prefix_append ..)
  | removed registered reached inductionHypothesis =>
      exact inductionHypothesis
  | cleared reached inductionHypothesis =>
      exact inductionHypothesis
  | disposed number reached inductionHypothesis =>
      rwa [origins_dispose]
  | taken offered found idle reached inductionHypothesis =>
      rwa [origins_take]
  | givenBack reached inductionHypothesis =>
      rwa [origins_giveBack]
  | kept name reached inductionHypothesis =>
      exact inductionHypothesis
  | letGo held reached inductionHypothesis =>
      exact inductionHypothesis

/-- No pool is ever forgotten. -/
theorem length_pools_le
    (reached : Reached start run hand own) :
    start.pools.length ≤ run.session.pools.length := by
  simpa using reached.origins_prefix.length_le

/-- A step registers only pools that it may use. -/
theorem offers_of_mem
    (reached : Reached start run hand own) :
    ∀ number ∈ run.session.registry.map Prod.snd, start.Offers number := by
  induction reached with
  | begun server =>
      exact fun number registered => .inl registered
  | noted plain reached inductionHypothesis =>
      exact inductionHypothesis
  | asked source reached inductionHypothesis =>
      exact inductionHypothesis
  | opened pool reached inductionHypothesis =>
      exact inductionHypothesis
  | built source reached inductionHypothesis =>
      exact inductionHypothesis
  | added absent reached inductionHypothesis =>
      intro number registered
      simp only [register, Session.withPool, List.map_append, List.mem_append,
        List.map_cons, List.map_nil, List.mem_singleton] at registered
      rcases registered with earlier | rfl
      · exact inductionHypothesis number earlier
      · exact .inr reached.length_pools_le
  | removed registered reached inductionHypothesis =>
      exact fun number listed =>
        inductionHypothesis number ((List.filter_sublist.map Prod.snd).subset listed)
  | cleared reached inductionHypothesis =>
      exact fun number listed => absurd listed List.not_mem_nil
  | disposed number reached inductionHypothesis =>
      rwa [registry_dispose]
  | taken offered found idle reached inductionHypothesis =>
      exact inductionHypothesis
  | givenBack reached inductionHypothesis =>
      rwa [registry_giveBack]
  | kept name reached inductionHypothesis =>
      exact inductionHypothesis
  | letGo held reached inductionHypothesis =>
      exact inductionHypothesis

/-- A pool that is registered now is one that the step may use. -/
theorem offers_of_registered
    {source : SourceId}
    {number : Nat}
    (reached : Reached start run hand own)
    (registered : run.session.registered? source = some number) :
    start.Offers number :=
  reached.offers_of_mem number
    (List.mem_map_of_mem (f := Prod.snd) (Session.mem_of_registered? registered))

/-- A pool that is built is not registered yet. -/
theorem build
    (reached : Reached start run hand own)
    (source : DataSource) :
    Reached start (run.build source).2 hand
      ((run.build source).1.toOption.toList ++ own) := by
  have asked := reached.asked source.id
  rw [build_eq]
  cases run.server.factoryError with
  | some failure =>
      exact asked
  | none =>
      exact asked.built source

/-- Acquiring a pool only moves to a state that can be reached. -/
theorem acquirePool
    (reached : Reached start run hand own)
    (source : DataSource) :
    Reached start (run.acquirePool source).2 hand own := by
  rw [acquirePool_eq]
  cases absent : run.session.registered? source.id with
  | some number =>
      exact reached
  | none =>
      have asked := reached.asked source.id
      have absentThen :
          (run.note (.building source.id)).session.registered? source.id = none := absent
      cases run.server.factoryError with
      | some failure =>
          exact asked
      | none =>
          exact asked.added absentThen

/-- Removing a source from the registry only moves to a state that can be reached. -/
theorem evict
    (reached : Reached start run hand own)
    (source : SourceId) :
    Reached start (run.evict source).2 hand own := by
  rw [evict_eq]
  cases registered : run.session.registered? source with
  | none =>
      exact reached
  | some number =>
      have disposed := (reached.removed registered).disposed number
      rwa [List.erase_cons_head] at disposed

/-- Emptying the registry only moves to a state that can be reached. -/
theorem closeAll
    (reached : Reached start run hand own) :
    Reached start run.closeAll.2 hand own := by
  have disposed
      (entries : List (SourceId × Nat))
      {later : Run}
      (cleared : Reached start later hand (entries.map Prod.snd ++ own)) :
      Reached start (entries.foldl (fun run entry => run.dispose entry.2) later) hand own := by
    induction entries generalizing later with
    | nil =>
        exact cleared
    | cons entry entries inductionHypothesis =>
        have rest := cleared.disposed entry.2
        rw [List.map_cons, List.cons_append, List.erase_cons_head] at rest
        exact inductionHypothesis rest
  exact disposed run.session.registry reached.cleared

/-- What another caller does meanwhile only moves to a state that can be reached. -/
theorem disturb
    (reached : Reached start run hand own)
    (source : DataSource)
    (opening : Opening) :
    Reached start (run.disturb source opening) hand own := by
  cases opening with
  | succeeds =>
      exact reached
  | fails message =>
      exact reached
  | evicted =>
      exact reached.evict source.id
  | replaced =>
      exact (reached.evict source.id).acquirePool source

/-- An opened connection comes from a pool that is on offer, and is added to what is held. -/
theorem openConnection
    {number : Nat}
    {pool : Pool}
    (reached : Reached start run hand own)
    (offered : start.Offers number)
    (found : run.session.pools[number]? = some pool) :
    Reached start (run.openConnection number pool).2
      ((run.openConnection number pool).1.toOption.toList ++ hand) own := by
  have stillFound : (run.opened pool).session.pools[number]? = some pool := found
  have taken := (reached.opened pool).taken offered stillFound id
  rw [openConnection_eq]
  cases run.server.nextOpening.1 with
  | fails message =>
      exact reached.opened pool
  | succeeds =>
      exact taken.disturb pool.origin .succeeds
  | evicted =>
      exact taken.disturb pool.origin .evicted
  | replaced =>
      exact taken.disturb pool.origin .replaced

/-- A connection that is handed out is in hand. -/
theorem connect
    {number : Nat}
    (reached : Reached start run hand own)
    (offered : start.Offers number) :
    Reached start (run.connect number).2
      ((run.connect number).1.toOption.toList ++ hand) own := by
  cases found : run.session.pools[number]? with
  | none =>
      rw [Run.connect, found]
      exact reached
  | some pool =>
      rw [connect_eq found]
      split
      · exact reached.taken offered found (· - 1)
      · split
        · exact reached
        · exact reached.openConnection offered found

/-- A step may use any pool that it is offered. -/
theorem uses
    {later : Run}
    {number : Nat}
    {used : List Connection}
    (reached : Reached start run hand own)
    (offered : start.Offers number)
    (uses : Uses run number later used) :
    Reached start later (used ++ hand) own := by
  induction uses with
  | begun =>
      exact reached
  | noted plain uses inductionHypothesis =>
      exact inductionHypothesis.noted plain
  | connected uses inductionHypothesis =>
      rw [List.append_assoc]
      exact inductionHypothesis.connect offered
  | givenBack uses inductionHypothesis =>
      exact inductionHypothesis.givenBack
  | kept name uses inductionHypothesis =>
      exact inductionHypothesis.kept name

/-- A pool that was acquired is one that the step may use. -/
theorem uses_acquired
    {holding later : Run}
    {source : DataSource}
    {number : Nat}
    {used : List Connection}
    (reached : Reached start run hand own)
    (acquired : run.acquirePool source = (.ok number, holding))
    (uses : Uses holding number later used) :
    Reached start later (used ++ hand) own := by
  have acquiring := reached.acquirePool source
  rw [acquired] at acquiring
  exact acquiring.uses (acquiring.offers_of_registered (registered?_acquirePool acquired)) uses

/-- A connection that is checked out is added to what is held, and nothing else is. -/
theorem checkOut
    (reached : Reached start run hand [])
    (source : DataSource) :
    Reached start (run.checkOut source).2
      ((run.checkOut source).1.toOption.toList ++ hand) [] := by
  refine checkOut_induction
    (motive := fun run outcome =>
      Reached start run hand [] →
        Reached start outcome.2 (outcome.1.toOption.toList ++ hand) [])
    ?unbuilt ?unconnected ?connected ?disturbed run reached
  case unbuilt =>
    intro run later failure acquired reached
    have acquiring := reached.acquirePool source
    rwa [acquired] at acquiring
  case unconnected =>
    intro run holding later number failure acquired refused reached
    have connecting := reached.uses_acquired acquired Uses.begun.connected
    rwa [refused] at connecting
  case connected =>
    intro run holding later number connection acquired opened _ reached
    have connecting := reached.uses_acquired acquired Uses.begun.connected
    rwa [opened] at connecting
  case disturbed =>
    intro run holding later number connection outcome acquired opened _ _
      inductionHypothesis reached
    have connecting := reached.uses_acquired acquired Uses.begun.connected
    rw [opened] at connecting
    exact inductionHypothesis (connecting.givenBack.disposed number)

/-- A statement gives back the connection it took. -/
theorem executeQuery
    (reached : Reached start run hand [])
    (source : DataSource)
    (statement : String)
    (limit : Int) :
    Reached start (run.executeQuery source statement limit).2 hand [] := by
  by_cases positive : 1 ≤ limit
  · rw [executeQuery_eq _ _ _ positive]
    cases capped? statement (limit + 1) with
    | none =>
        exact reached
    | some bounded =>
        have checkedOut := reached.checkOut source
        dsimp only
        generalize run.checkOut source = outcome at checkedOut
        obtain ⟨failure | connection, later⟩ := outcome
        · exact checkedOut
        · exact (checkedOut.noted (later.server.sending_plain _ bounded limit.toNat)).givenBack
  · rw [Run.executeQuery, if_pos (Int.not_le.mp positive)]
    exact reached

/-- Executing a request gives back the connection it took. -/
theorem execute
    (reached : Reached start run hand [])
    (settings : EngineSettings)
    (source : DataSource)
    (request : Request)
    (parameters : Parameters)
    (limit : Option Int) :
    Reached start (run.execute settings source request parameters limit).2 hand [] := by
  rw [Run.execute]
  cases settings.resolvedStatement source request parameters with
  | error error =>
      exact reached
  | ok statement =>
      have executed := reached.executeQuery source statement (settings.rowLimit limit)
      dsimp only
      generalize run.executeQuery source statement _ = outcome at executed
      obtain ⟨error | result, later⟩ := outcome <;> exact executed

/-- The pool that a probe builds is disposed of, whatever happens. -/
theorem probe
    (reached : Reached start run hand [])
    (source : DataSource) :
    Reached start (run.probe source).2 hand [] := by
  have attempted : Reached start (run.attemptProbe source).2 hand [] := by
    have building := reached.build source
    rw [attemptProbe]
    cases built : run.build source with
    | mk outcome later =>
        rw [built] at building
        cases outcome with
        | error failure =>
            exact building
        | ok number =>
            have own : Reached start later hand [number] := building
            have offered : start.Offers number := by
              rw [number_of_build built]
              exact .inr reached.length_pools_le
            have connected := own.uses offered Uses.begun.connected
            dsimp only
            generalize later.connect number = outcome at connected
            obtain ⟨failure | connection, latest⟩ := outcome
            · have disposed := connected.disposed number
              rwa [List.erase_cons_head] at disposed
            · have plain :
                  ∀ event ∈
                      [Event.executing (Dialect.ofEngine true source.engine).probeStatement],
                    event.isPlain = true := by
                simp [Event.isPlain]
              have disposed := (connected.noted plain).givenBack.disposed number
              rwa [List.erase_cons_head] at disposed
  rw [Run.probe]
  dsimp only
  split <;> exact attempted

/-- Listing a schema gives back the connection it took. -/
theorem schemaInfo
    (reached : Reached start run hand own)
    (source : DataSource) :
    Reached start (run.schemaInfo source).2 hand own := by
  have acquiring := reached.acquirePool source
  rw [Run.schemaInfo]
  cases acquired : run.acquirePool source with
  | mk outcome holding =>
      cases outcome with
      | error failure =>
          rwa [acquired] at acquiring
      | ok number =>
          have listed :=
            reached.uses_acquired acquired
              (Uses.begun.listCatalog
                ((Dialect.ofEngine true source.engine).catalogScope source))
          dsimp only
          generalize holding.listCatalog number _ = outcome at listed
          obtain ⟨message | tables, later⟩ := outcome <;> exact listed

/-- Asking for a pool takes no connection. -/
theorem getPool
    (reached : Reached start run hand own)
    (source : DataSource) :
    Reached start (run.getPool source).2 hand own := by
  have acquired := reached.acquirePool source
  rw [Run.getPool]
  generalize run.acquirePool source = outcome at acquired
  obtain ⟨failure | number, later⟩ := outcome <;> exact acquired

/-- A connection that is held belongs to its holder, not to the call. -/
theorem hold
    (reached : Reached start run hand own)
    (source : DataSource)
    (name : String) :
    Reached start (run.hold source name).2 hand own := by
  have acquiring := reached.acquirePool source
  rw [Run.hold]
  cases acquired : run.acquirePool source with
  | mk outcome holding =>
      cases outcome with
      | error failure =>
          rwa [acquired] at acquiring
      | ok number =>
          have connected := reached.uses_acquired acquired Uses.begun.connected
          dsimp only
          generalize holding.connect number = outcome at connected
          obtain ⟨failure | connection, later⟩ := outcome
          · exact connected
          · exact connected.kept name

/-- Releasing a name gives back what it held. -/
theorem release
    (reached : Reached start run hand own)
    (name : String) :
    Reached start (run.release name) hand own := by
  rw [Run.release]
  cases held : run.session.held.lookup name with
  | none =>
      exact reached
  | some connection =>
      exact (reached.letGo held).givenBack

end Reached

/-- A step ends with no connection in hand, and with no pool that is not registered. -/
theorem reached_step
    (session : Session)
    (settings : EngineSettings)
    (server : Server)
    (step : Step) :
    ∃ later,
      Reached session
        ⟨(session.step settings server step).2.1, later,
          (session.step settings server step).2.2⟩ [] [] := by
  have reached : Reached session ⟨session, server, []⟩ [] [] := .begun server
  cases step with
  | executeQuery source statement limit =>
      exact ⟨_, reached.executeQuery source statement limit⟩
  | execute source request parameters limit =>
      exact ⟨_, reached.execute settings source request parameters limit⟩
  | probe source =>
      exact ⟨_, reached.probe source⟩
  | schema source =>
      exact ⟨_, reached.schemaInfo source⟩
  | getPool source =>
      exact ⟨_, reached.getPool source⟩
  | evict source =>
      exact ⟨_, reached.evict source⟩
  | closeAll =>
      exact ⟨_, reached.closeAll⟩
  | hold source name =>
      exact ⟨_, reached.hold source name⟩
  | release name =>
      exact ⟨_, reached.release name⟩
  | status =>
      refine ⟨server, ?_⟩
      rw [Session.step, perform]
      dsimp only
      cases session.status? <;> exact reached

end Run

end QueryGateway
