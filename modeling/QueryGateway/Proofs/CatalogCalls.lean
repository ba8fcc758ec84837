import QueryGateway.Proofs.CheckOutFailures
import QueryGateway.Session.Listing

/-!
# Calls that read a catalog

A source is listed by a row of calls over its pool: the pool is looked at, the
views and the tables are asked for, then the columns of each name.  Every call
is a visit to the pool, which checks a connection out and gives it back, and an
answer of the catalog.  The first call that fails ends the row.

No operation on pools reads the catalog.  Visits therefore go alike under any
catalog, and what differs between two catalogs is their answers alone.
-/

namespace QueryGateway

open List Sql

/-! ## Calls -/

/-- A call that is made to read a catalog. -/
inductive CatalogCall where
  | inspecting
  | views
  | tables
  | columns (name : String)
  deriving Repr, DecidableEq

namespace CatalogCall

/-- What goes on record about a call. -/
def event? (scope : String) : CatalogCall → Option Event
  | .inspecting => none
  | .views => some (.listingViews scope)
  | .tables => some (.listingTables scope)
  | .columns name => some (.listingColumns scope name)

/-- Whether a catalog answers a call, once there is a connection. -/
def answer : CatalogCall → Catalog → Except String Unit
  | .inspecting, _ => .ok ()
  | .views, catalog => catalog.views.map fun _ => ()
  | .tables, catalog => catalog.tables.map fun _ => ()
  | .columns name, catalog => (catalog.columnsOf name).map fun _ => ()

end CatalogCall

namespace Run

/-- Make a call over a connection of a pool. -/
def make (run : Run) (number : Nat) (scope : String) : CatalogCall → Except String Unit × Run
  | .inspecting => run.inspect number
  | .views => run.askCatalog number (.listingViews scope) CatalogCall.views.answer
  | .tables => run.askCatalog number (.listingTables scope) CatalogCall.tables.answer
  | .columns name =>
      run.askCatalog number (.listingColumns scope name) (CatalogCall.columns name).answer

/-- Make calls in order until one fails. -/
def makeAll (number : Nat) (scope : String) :
    List CatalogCall → Run → Except String Unit × Run
  | [], run => (.ok (), run)
  | call :: rest, run =>
      match run.make number scope call with
      | (.error message, run) => (.error message, run)
      | (.ok (), run) => makeAll number scope rest run

/-- Note an event, if there is one. -/
def noteAny (run : Run) : Option Event → Run
  | none => run
  | some event => run.note event

/-- Check a connection of a pool out, note an event, and give the connection back. -/
def visit (run : Run) (number : Nat) (event? : Option Event) : Except String Unit × Run :=
  match run.connect number with
  | (.error failure, run) => (.error failure.message, run)
  | (.ok connection, run) => (.ok (), (run.noteAny event?).giveBack connection)

/-- A run with another catalog. -/
def withCatalog (catalog : Catalog) (run : Run) : Run :=
  { run with server := { run.server with catalog } }

variable
  (run : Run)
  (number : Nat)
  (scope : String)

/-! ## A call is a visit and an answer -/

@[simp]
theorem server_noteAny
    (event? : Option Event) :
    (run.noteAny event?).server = run.server := by
  cases event? <;> rfl

@[simp]
theorem session_noteAny
    (event? : Option Event) :
    (run.noteAny event?).session = run.session := by
  cases event? <;> rfl

theorem catalog_connect :
    (run.connect number).2.server.catalog = run.server.catalog :=
  congrArg (fun frame => frame.2.2.2.1.catalog) (run.frame_connect number)

@[simp]
theorem catalog_visit
    (event? : Option Event) :
    (run.visit number event?).2.server.catalog = run.server.catalog := by
  have connected := run.catalog_connect number
  rw [visit]
  generalize run.connect number = outcome at connected
  obtain ⟨failure | connection, later⟩ := outcome
  · exact connected
  · dsimp only
    rw [server_giveBack, server_noteAny]
    exact connected

/-- A question to the catalog is a visit, then an answer. -/
theorem askCatalog_eq
    {α : Type}
    (event : Event)
    (answer : Catalog → Except String α) :
    run.askCatalog number event answer =
      match run.visit number (some event) with
      | (.error message, later) => (.error message, later)
      | (.ok (), later) => (answer run.server.catalog, later) := by
  have connected := run.catalog_connect number
  rw [askCatalog, visit]
  generalize run.connect number = outcome at connected
  obtain ⟨failure | connection, later⟩ := outcome
  · rfl
  · exact congrArg (fun catalog => (answer catalog, _)) connected

/-- A call is a visit, then an answer. -/
theorem make_eq
    (call : CatalogCall) :
    run.make number scope call =
      match run.visit number (call.event? scope) with
      | (.error message, later) => (.error message, later)
      | (.ok (), later) => (call.answer run.server.catalog, later) := by
  cases call with
  | inspecting =>
      rw [make, inspect, CatalogCall.event?, visit]
      generalize run.connect number = outcome
      obtain ⟨failure | connection, later⟩ := outcome <;> rfl
  | views | tables | columns name =>
      exact run.askCatalog_eq ..

/-- A question to the catalog fails as the call for it does, or it gets the answer that the catalog
has, and the catalog stays. -/
theorem askCatalog_cases
    {α : Type}
    (call : CatalogCall)
    (answer : Catalog → Except String α)
    {event : Event}
    (noted : call.event? scope = some event)
    (asks : call.answer run.server.catalog = (answer run.server.catalog).map fun _ => ()) :
    (∃ message later,
      run.make number scope call = (.error message, later) ∧
        run.askCatalog number event answer = (.error message, later)) ∨
      ∃ value later,
        run.make number scope call = (.ok (), later) ∧
          run.askCatalog number event answer = (.ok value, later) ∧
            answer run.server.catalog = .ok value ∧
              later.server.catalog = run.server.catalog := by
  have kept := run.catalog_visit number (some event)
  rw [askCatalog_eq, make_eq, noted, asks]
  generalize run.visit number (some event) = outcome at kept
  obtain ⟨message | _, later⟩ := outcome
  · exact Or.inl ⟨message, later, rfl, rfl⟩
  · cases answer run.server.catalog with
    | error message =>
        exact Or.inl ⟨message, later, rfl, rfl⟩
    | ok value =>
        exact Or.inr ⟨value, later, rfl, rfl, rfl, kept⟩

/-- A call that succeeds is answered by the catalog, which it leaves as it is. -/
theorem answer_of_make
    {later : Run}
    {call : CatalogCall}
    (made : run.make number scope call = (.ok (), later)) :
    call.answer run.server.catalog = .ok () ∧ later.server.catalog = run.server.catalog := by
  have kept := run.catalog_visit number (call.event? scope)
  rw [make_eq] at made
  generalize run.visit number (call.event? scope) = outcome at made kept
  obtain ⟨message | _, visited⟩ := outcome
  · cases made
  · obtain ⟨answered, rfl⟩ := Prod.mk.inj made
    exact ⟨answered, kept⟩

/-! ## Rows of calls -/

variable
  {run number scope}

theorem makeAll_append
    (calls others : List CatalogCall) :
    makeAll number scope (calls ++ others) run =
      match makeAll number scope calls run with
      | (.error message, later) => (.error message, later)
      | (.ok (), later) => makeAll number scope others later := by
  induction calls generalizing run with
  | nil =>
      rfl
  | cons call rest inductionHypothesis =>
      rw [cons_append, makeAll, makeAll]
      obtain ⟨message | _, later⟩ := run.make number scope call
      · rfl
      · exact inductionHypothesis

/-- Calls that all succeed are all answered by the catalog, which they leave as it is. -/
theorem answer_of_makeAll
    {later : Run}
    {calls : List CatalogCall}
    (made : makeAll number scope calls run = (.ok (), later)) :
    (∀ call ∈ calls, call.answer run.server.catalog = .ok ()) ∧
      later.server.catalog = run.server.catalog := by
  induction calls generalizing run with
  | nil =>
      obtain ⟨-, rfl⟩ := Prod.mk.inj made
      exact ⟨fun _ member => absurd member not_mem_nil, rfl⟩
  | cons call rest inductionHypothesis =>
      rw [makeAll] at made
      cases first : run.make number scope call with
      | mk outcome between =>
          cases outcome with
          | error message =>
              simp [first] at made
          | ok _ =>
              rw [first] at made
              obtain ⟨answered, kept⟩ := run.answer_of_make number scope first
              obtain ⟨restAnswered, restKept⟩ := inductionHypothesis made
              rw [kept] at restAnswered restKept
              exact ⟨forall_mem_cons.mpr ⟨answered, restAnswered⟩, restKept⟩

/-! ## Under another catalog -/

section

variable
  (catalog : Catalog)

@[simp]
theorem catalog_withCatalog
    (run : Run) :
    (run.withCatalog catalog).server.catalog = catalog := rfl

theorem acquirePool_withCatalog
    (run : Run)
    (source : DataSource) :
    (run.withCatalog catalog).acquirePool source =
      Prod.map id (withCatalog catalog) (run.acquirePool source) := by
  have registered :
      (run.withCatalog catalog).session.registered? source.id =
        run.session.registered? source.id := rfl
  have buildable :
      (run.withCatalog catalog).server.factoryError =
        run.server.factoryError := rfl
  rw [acquirePool_eq, acquirePool_eq, registered, buildable]
  cases run.session.registered? source.id with
  | some number =>
      rfl
  | none =>
      cases run.server.factoryError <;> rfl

theorem evict_withCatalog
    (run : Run)
    (source : SourceId) :
    ((run.withCatalog catalog).evict source).2 = (run.evict source).2.withCatalog catalog := by
  have registered :
      (run.withCatalog catalog).session.registered? source =
        run.session.registered? source := rfl
  rw [evict_eq, evict_eq, registered]
  cases run.session.registered? source with
  | none =>
      rfl
  | some number =>
      have pools : (run.withCatalog catalog).session = run.session := rfl
      dsimp only
      rw [pools, dispose, dispose]
      dsimp only
      cases (run.session.without source).pools[number]? <;> rfl

theorem disturb_withCatalog
    (run : Run)
    (source : DataSource)
    (opening : Opening) :
    (run.withCatalog catalog).disturb source opening =
      (run.disturb source opening).withCatalog catalog := by
  cases opening with
  | succeeds | fails message =>
      rfl
  | evicted =>
      exact evict_withCatalog ..
  | replaced =>
      rw [disturb, disturb, evict_withCatalog, acquirePool_withCatalog]
      rfl

theorem openConnection_withCatalog
    (run : Run)
    (pool : Pool) :
    (run.withCatalog catalog).openConnection number pool =
      Prod.map id (withCatalog catalog) (run.openConnection number pool) := by
  have opening :
      (run.withCatalog catalog).server.nextOpening =
        Prod.map id (fun server => { server with catalog }) run.server.nextOpening := by
    rw [Server.nextOpening, Server.nextOpening, withCatalog]
    cases run.server.openings <;> rfl
  have opened :
      ((run.withCatalog catalog).opened pool).take number id =
        ((run.opened pool).take number id).withCatalog catalog :=
    congrArg (fun server => Run.take { run.note _ with server } number id)
      (congrArg Prod.snd opening)
  rw [openConnection_eq, openConnection_eq, opening, opened, Prod.map_fst, id]
  cases run.server.nextOpening.1 with
  | fails message =>
      exact congrArg (fun server => (_, { run.note _ with server })) (congrArg Prod.snd opening)
  | succeeds | evicted | replaced =>
      exact congrArg (Except.ok _, ·) (disturb_withCatalog ..)

theorem connect_withCatalog
    (run : Run) :
    (run.withCatalog catalog).connect number =
      Prod.map id (withCatalog catalog) (run.connect number) := by
  cases found : run.session.pools[number]? with
  | none =>
      have same : (run.withCatalog catalog).session.pools[number]? = none := found
      rw [connect, connect, same, found]
      rfl
  | some pool =>
      have same : (run.withCatalog catalog).session.pools[number]? = some pool := found
      rw [connect_eq same, connect_eq found, openConnection_withCatalog,
        apply_ite (Prod.map id (withCatalog catalog)),
        apply_ite (Prod.map id (withCatalog catalog))]
      rfl

theorem giveBack_withCatalog
    (run : Run)
    (connection : Connection) :
    (run.withCatalog catalog).giveBack connection =
      (run.giveBack connection).withCatalog catalog := by
  cases found : run.session.pools[connection.pool]? with
  | none =>
      have same : (run.withCatalog catalog).session.pools[connection.pool]? = none := found
      rw [giveBack, giveBack, same, found]
  | some pool =>
      have same : (run.withCatalog catalog).session.pools[connection.pool]? = some pool := found
      rw [giveBack_eq same, giveBack_eq found, apply_ite (withCatalog catalog),
        apply_ite (withCatalog catalog)]
      rfl

theorem visit_withCatalog
    (run : Run)
    (event? : Option Event) :
    (run.withCatalog catalog).visit number event? =
      Prod.map id (withCatalog catalog) (run.visit number event?) := by
  rw [visit, visit, connect_withCatalog]
  obtain ⟨failure | connection, later⟩ := run.connect number
  · rfl
  · have noted :
        (later.withCatalog catalog).noteAny event? =
          (later.noteAny event?).withCatalog catalog := by
      cases event? <;> rfl
    dsimp only [Prod.map, id]
    rw [noted, giveBack_withCatalog]

/-- Calls that two catalogs answer alike go alike. -/
theorem makeAll_withCatalog
    {catalog : Catalog}
    {run : Run}
    {calls : List CatalogCall}
    (same : ∀ call ∈ calls, call.answer catalog = call.answer run.server.catalog) :
    makeAll number scope calls (run.withCatalog catalog) =
      Prod.map id (withCatalog catalog) (makeAll number scope calls run) := by
  induction calls generalizing run with
  | nil =>
      rfl
  | cons call rest inductionHypothesis =>
      have kept := run.catalog_visit number (call.event? scope)
      have sameFirst : call.answer (run.withCatalog catalog).server.catalog = _ :=
        same call mem_cons_self
      rw [makeAll, makeAll, make_eq, make_eq, visit_withCatalog, sameFirst]
      generalize run.visit number (call.event? scope) = outcome at kept
      obtain ⟨message | _, later⟩ := outcome
      · rfl
      · dsimp only [Prod.map, id]
        cases call.answer run.server.catalog with
        | error message =>
            rfl
        | ok _ =>
            refine inductionHypothesis fun other member => ?_
            rw [kept]
            exact same other (mem_cons_of_mem call member)

end

/-! ## Pools that serve every call -/

/-- Whether a pool hands out a connection whenever it is asked for one, as long as no other caller
intervenes: it has an idle one, or there is room for a new one and that can be opened. -/
structure Serves (run : Run) (number : Nat) : Prop where
  calm : run.server.openings = []
  hands :
    ∃ pool,
      run.session.pools[number]? = some pool ∧
        (run.session.backend.keepsIdle = true ∧ 0 < pool.idle ∨
          run.server.connectError = none ∧
            (run.session.backend.keepsIdle = true →
              pool.out < run.session.settings.maxSize))

/-- A pool serves on when a connection that it has lent comes back. -/
theorem serves_giveBack
    {pool : Pool}
    {idle : Nat → Nat}
    (calm : run.server.openings = [])
    (lent : run.session.pools[number]? = some (pool.lent idle))
    (opens :
      run.session.backend.keepsIdle = false → run.server.connectError = none) :
    (run.giveBack ⟨number, pool.generation⟩).Serves number := by
  have current : ¬ pool.generation < (pool.lent idle).generation := Nat.lt_irrefl _
  have returned (next : Nat → Nat) :
      (run.session.pools.modify number (Pool.regained next))[number]? =
        some ((pool.lent idle).regained next) := by
    rw [getElem?_modify_eq, lent]
    rfl
  refine ⟨by rw [server_giveBack, calm], ?_⟩
  rw [server_giveBack, giveBack_eq lent, if_neg current]
  cases keeps : run.session.backend.keepsIdle with
  | true =>
      exact ⟨_, returned _, Or.inl ⟨keeps, Nat.succ_pos _⟩⟩
  | false =>
      refine ⟨_, returned _, Or.inr ⟨opens keeps, fun kept => ?_⟩⟩
      cases keeps.symm.trans kept

/-- A pool that serves hands out a connection, and serves on when it is back. -/
theorem serves_visit
    (serves : run.Serves number)
    (event? : Option Event) :
    ∃ later, run.visit number event? = (.ok (), later) ∧ later.Serves number := by
  obtain ⟨calm, pool, found, hands⟩ := serves
  have lent (base : Run) (idle : Nat → Nat) (same : base.session = run.session) :
      ((base.take number idle).noteAny event?).session.pools[number]? =
        some (pool.lent idle) := by
    rw [session_noteAny, take, session_note, updatePool, Session.updatePool, same]
    dsimp only
    rw [getElem?_modify_eq, found]
    rfl
  rw [visit, connect_eq found]
  by_cases idle : run.session.backend.keepsIdle = true ∧ 0 < pool.idle
  · rw [if_pos idle]
    refine ⟨_, rfl, serves_giveBack ?_ (lent run (· - 1) rfl) ?_⟩
    · rw [server_noteAny]
      exact calm
    · rw [session_noteAny]
      intro drops
      cases idle.1.symm.trans drops
  · obtain ⟨opens, room⟩ := hands.resolve_left idle
    have notFull :
        ¬ (run.session.backend.keepsIdle = true ∧
            run.session.settings.maxSize ≤ pool.out) :=
      fun full => Nat.not_le.mpr (room full.1) full.2
    have opening : run.server.nextOpening = (.succeeds, run.server) := by
      rw [Server.nextOpening, calm, opens]
      rfl
    rw [if_neg idle, if_neg notFull, openConnection_eq, opened, opening]
    refine ⟨_, rfl, serves_giveBack ?_ (lent _ id rfl) ?_⟩
    · rw [disturb, server_noteAny]
      exact calm
    · rw [disturb, server_noteAny]
      exact fun _ => opens

/-- Over a pool that serves, calls fail as the catalog answers them. -/
theorem makeAll_of_serves
    {calls : List CatalogCall}
    (serves : run.Serves number) :
    (makeAll number scope calls run).1 =
      match calls.findSome? fun call => errorOf? (call.answer run.server.catalog) with
      | some message => .error message
      | none => .ok () := by
  induction calls generalizing run with
  | nil =>
      rfl
  | cons call rest inductionHypothesis =>
      have kept := run.catalog_visit number (call.event? scope)
      obtain ⟨later, visited, servesOn⟩ := serves_visit serves (call.event? scope)
      rw [visited] at kept
      rw [makeAll, make_eq, visited, findSome?_cons]
      cases call.answer run.server.catalog with
      | error message =>
          rfl
      | ok _ =>
          have restFails := inductionHypothesis servesOn
          rwa [kept] at restFails

end Run

end QueryGateway
