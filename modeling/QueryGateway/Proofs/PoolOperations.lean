import QueryGateway.Session.Pool

/-!
# What operations on pools do

Each operation on the pools of a session is said once as an equation; what
holds of it is proved from that.
-/

namespace QueryGateway

/-! ## What changes -/

namespace Pool

/-- A pool with one more connection out, and with idle ones as `idle` says. -/
def lent (idle : Nat → Nat) (pool : Pool) : Pool :=
  { pool with idle := idle pool.idle, out := pool.out + 1 }

/-- A pool with one less connection out, and with idle ones as `idle` says. -/
def regained (idle : Nat → Nat) (pool : Pool) : Pool :=
  { pool with idle := idle pool.idle, out := pool.out - 1 }

/-- A pool with one less connection of an earlier generation out. -/
def released (pool : Pool) : Pool :=
  { pool with stale := pool.stale - 1 }

end Pool

/-- Servers that refuse nothing; a statement returns no rows and the catalog is empty. -/
def Server.willing : Server where
  factoryError := none
  openings := []
  connectError := none
  executeError := none
  columns := none
  rows := []
  fetchError := none
  catalog := { views := .ok [], tables := .ok [], columns := [] }

/-- A source at a port. -/
def DataSource.ported (port : Int) : DataSource where
  id := .text "ds"
  engine := .postgresql
  host := "localhost"
  port := some port
  database := "main"
  username := none
  password := none
  schema := none
  options := []

/-- A session with one more pool, a fresh one of a source. -/
def Session.withPool (session : Session) (source : DataSource) : Session :=
  { session with pools := session.pools ++ [.fresh source] }

/-- A session in which no pool is registered for a source. -/
def Session.without (session : Session) (source : SourceId) : Session :=
  { session with registry := session.registry.filter fun entry => entry.1 ≠ source }

namespace Run

/-- A run in which another connection of a pool is out; `idle` says how many are left idle. -/
def take (run : Run) (number : Nat) (idle : Nat → Nat) : Run :=
  (run.updatePool number (Pool.lent idle)).note (.checkedOut number)

/-- A run in which a connection of a pool is being opened. -/
def opened (run : Run) (pool : Pool) : Run :=
  { run.note (.opening pool.origin.id) with server := run.server.nextOpening.2 }

/-! ## The operations -/

/-- A pool of a source is built, or there is a reason why it is not; it is put on record either
way. -/
theorem build_eq
    (run : Run)
    (source : DataSource) :
    run.build source =
      match run.server.factoryError with
      | some failure => (.error failure, run.note (.building source.id))
      | none =>
          (.ok run.session.pools.length,
            { run.note (.building source.id) with
              session := run.session.withPool source }) := by
  rfl

/-- The pool of a source is the one that is registered for it, or one that is built and registered
now. -/
theorem acquirePool_eq
    (run : Run)
    (source : DataSource) :
    run.acquirePool source =
      match run.session.registered? source.id, run.server.factoryError with
      | some number, _ => (.ok number, run)
      | none, some failure => (.error failure, run.note (.building source.id))
      | none, none =>
          (.ok run.session.pools.length,
            { run.note (.building source.id) with
              session := run.session.withPool source }.register source.id
                run.session.pools.length) := by
  rw [acquirePool, build_eq]
  cases run.session.registered? source.id with
  | some number =>
      rfl
  | none =>
      cases run.server.factoryError <;> rfl

/-- The pool of a source is disposed of when it is taken out of the registry. -/
theorem evict_eq
    (run : Run)
    (source : SourceId) :
    run.evict source =
      match run.session.registered? source with
      | none => (false, run)
      | some number =>
          (true, { run with session := run.session.without source }.dispose number) := by
  rfl

/-- Opening a connection uses up what was foreseen for it, and another caller may intervene. -/
theorem openConnection_eq
    (run : Run)
    (number : Nat)
    (pool : Pool) :
    run.openConnection number pool =
      match run.server.nextOpening.1 with
      | .fails message => (.error (.refused message), run.opened pool)
      | opening =>
          (.ok ⟨number, pool.generation⟩,
            ((run.opened pool).take number id).disturb pool.origin opening) := by
  rfl

/-- A connection of a pool is one that was idle, or a new one if the pool has room for it. -/
theorem connect_eq
    {run : Run}
    {number : Nat}
    {pool : Pool}
    (found : run.session.pools[number]? = some pool) :
    run.connect number =
      if run.session.backend.keepsIdle = true ∧ 0 < pool.idle then
        (.ok ⟨number, pool.generation⟩, run.take number (· - 1))
      else if run.session.backend.keepsIdle = true ∧
          run.session.settings.maxSize ≤ pool.out then
        (.error (.exhausted run.session.settings.maxSize run.session.settings.connectTimeout
          run.session.backend.exhaustionNote), run)
      else
        run.openConnection number pool := by
  rw [connect, found]
  dsimp only
  cases keeps : run.session.backend.keepsIdle with
  | false =>
      simp
  | true =>
      by_cases idle : 0 < pool.idle
      · simp only [Bool.not_true, Bool.false_eq_true, if_false, idle, if_true, and_self]
        rfl
      · by_cases room : pool.out < run.session.settings.maxSize
        · simp [idle, room, Nat.not_le.mpr room]
        · simp [idle, room, Nat.not_lt.mp room]

/-- A connection of an earlier generation is let go of; another one is idle again, or is closed. -/
theorem giveBack_eq
    {run : Run}
    {connection : Connection}
    {pool : Pool}
    (found : run.session.pools[connection.pool]? = some pool) :
    run.giveBack connection =
      if connection.generation < pool.generation then
        (run.updatePool connection.pool Pool.released).note (.returned connection.pool)
      else if run.session.backend.keepsIdle = true then
        (run.updatePool connection.pool (Pool.regained (· + 1))).note
          (.returned connection.pool)
      else
        ((run.updatePool connection.pool (Pool.regained id)).note
          (.returned connection.pool)).note (.closing pool.origin.id) := by
  rw [giveBack, found]
  rfl

end Run

end QueryGateway
