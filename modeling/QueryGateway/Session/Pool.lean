import QueryGateway.Session.Event
import QueryGateway.Session.Server
import QueryGateway.Source.Connection

/-!
# Pools

A session keeps one bounded pool of connections for each source in use.  A pool
is registered when it is built and stays so until it is evicted.  Disposing of
a pool closes its idle connections; those that are out then belong to an
earlier generation of it and are dropped when they come back.
-/

namespace QueryGateway

open Sql

/-- What lies under a session: the scheme of the addresses, whether idle connections are kept, and
a note that goes with the message about an exhausted pool. -/
structure Backend where
  scheme : String
  keepsIdle : Bool
  exhaustionNote : String
  deriving Repr, DecidableEq

/-- A pool that was built for a source: the generation it is in, its connections that are idle or
out, and those of earlier generations that are still out. -/
structure Pool where
  origin : DataSource
  generation : Nat
  idle : Nat
  out : Nat
  stale : Nat
  deriving Repr

/-- A connection that is out: the pool that it comes from, in which generation. -/
structure Connection where
  pool : Nat
  generation : Nat
  deriving Repr, DecidableEq

/-- A session: every pool that was built, which of them are registered for which source, and the
connections that are held under a name. -/
structure Session where
  backend : Backend
  settings : PoolSettings
  pools : List Pool
  registry : List (SourceId × Nat)
  held : List (String × Connection)
  deriving Repr

/-- A step of a session under way: the session so far, how the servers will behave, and what has
happened. -/
structure Run where
  session : Session
  server : Server
  log : List Event

/-- Why no connection was handed out: all of the pool's are out, or none could be opened. -/
inductive ConnectFailure where
  | exhausted (size : Nat) (timeout : Binary64) (note : String)
  | refused (message : String)
  deriving Repr, DecidableEq

/-- The description of a failure. -/
def ConnectFailure.message : ConnectFailure → String
  | .exhausted size timeout note =>
      "QueuePool limit of size " ++ Numeral.ofNat size
        ++ " overflow 0 reached, connection timed out, timeout " ++ timeout.centsText ++ note
  | .refused message => message

/-- A pool that was just built. -/
def Pool.fresh (origin : DataSource) : Pool := ⟨origin, 0, 0, 0, 0⟩

/-- The connections of a pool that are out, of any generation. -/
def Pool.checkedOut (pool : Pool) : Nat := pool.out + pool.stale

/-- A pool in its next generation. -/
def Pool.renewed (pool : Pool) : Pool :=
  { pool with
    generation := pool.generation + 1
    idle := 0
    out := 0
    stale := pool.stale + pool.out }

/-- The address of a pool. -/
def Pool.address (scheme : String) (pool : Pool) : Address :=
  pool.origin.address scheme (some (Dialect.ofEngine true pool.origin.engine).defaultPort)

namespace Session

/-- A session before its first step. -/
def start (backend : Backend) (settings : PoolSettings) : Session :=
  ⟨backend, settings, [], [], []⟩

/-- The number of the pool that is registered for a source. -/
def registered? (session : Session) (source : SourceId) : Option Nat :=
  session.registry.lookup source

/-- Change a pool. -/
def updatePool (session : Session) (number : Nat) (change : Pool → Pool) : Session :=
  { session with pools := session.pools.modify number change }

end Session

namespace Run

/-- Note an event. -/
def note (run : Run) (event : Event) : Run :=
  { run with log := run.log ++ [event] }

/-- Change a pool. -/
def updatePool (run : Run) (number : Nat) (change : Pool → Pool) : Run :=
  { run with session := run.session.updatePool number change }

/-- Build a pool for a source without registering it. -/
def build (run : Run) (source : DataSource) : Except ServerFailure Nat × Run :=
  let run := run.note (.building source.id)
  match run.server.factoryError with
  | some failure => (.error failure, run)
  | none =>
      (.ok run.session.pools.length,
        { run with
          session := { run.session with pools := run.session.pools ++ [.fresh source] } })

/-- Register a pool for a source. -/
def register (run : Run) (source : SourceId) (number : Nat) : Run :=
  { run with
    session := { run.session with registry := run.session.registry ++ [(source, number)] } }

/-- The pool that is registered for a source; it is built if there is none. -/
def acquirePool (run : Run) (source : DataSource) : Except ServerFailure Nat × Run :=
  match run.session.registered? source.id with
  | some number => (.ok number, run)
  | none =>
      match run.build source with
      | (.ok number, run) => (.ok number, run.register source.id number)
      | (.error failure, run) => (.error failure, run)

/-- Dispose of a pool: close its idle connections and start its next generation. -/
def dispose (run : Run) (number : Nat) : Run :=
  match run.session.pools[number]? with
  | none => run
  | some pool =>
      let closed := List.replicate pool.idle (Event.closing pool.origin.id)
      { run.updatePool number Pool.renewed with log := run.log ++ closed ++ [.disposed number] }

/-- Take the pool of a source out of the registry, if there is one, and dispose of it. -/
def evict (run : Run) (source : SourceId) : Bool × Run :=
  match run.session.registered? source with
  | none => (false, run)
  | some number =>
      let registry := run.session.registry.filter fun entry => entry.1 ≠ source
      (true, { run with session := { run.session with registry } }.dispose number)

/-- Take every pool out of the registry and dispose of them in the order in which they were
registered. -/
def closeAll (run : Run) : Nat × Run :=
  let registry := run.session.registry
  (registry.length,
    registry.foldl (fun run entry => run.dispose entry.2)
      { run with session := { run.session with registry := [] } })

/-- What another caller does to the registry while a connection to a source is opened. -/
def disturb (run : Run) (source : DataSource) : Opening → Run
  | .succeeds | .fails _ => run
  | .evicted => (run.evict source.id).2
  | .replaced => ((run.evict source.id).2.acquirePool source).2

/-- Open a connection of a pool.  It counts as out while it is opened. -/
def openConnection (run : Run) (number : Nat) (pool : Pool) :
    Except ConnectFailure Connection × Run :=
  let run := run.note (.opening pool.origin.id)
  let (opening, server) := run.server.nextOpening
  let run := { run with server }
  match opening with
  | .fails message => (.error (.refused message), run)
  | opening =>
      let run := (run.updatePool number fun pool => { pool with out := pool.out + 1 }).note
        (.checkedOut number)
      (.ok ⟨number, pool.generation⟩, run.disturb pool.origin opening)

/-- Hand out a connection of a pool: an idle one, or a new one if the pool may have more. -/
def connect (run : Run) (number : Nat) : Except ConnectFailure Connection × Run :=
  match run.session.pools[number]? with
  | none => (.error (.refused "no such pool"), run)
  | some pool =>
      if !run.session.backend.keepsIdle then
        run.openConnection number pool
      else if 0 < pool.idle then
        (.ok ⟨number, pool.generation⟩,
          (run.updatePool number fun pool =>
            { pool with idle := pool.idle - 1, out := pool.out + 1 }).note (.checkedOut number))
      else if pool.out < run.session.settings.maxSize then
        run.openConnection number pool
      else
        (.error (.exhausted run.session.settings.maxSize run.session.settings.connectTimeout
          run.session.backend.exhaustionNote), run)

/-- Take a connection back.  One of an earlier generation is dropped, and one that is not kept is
closed. -/
def giveBack (run : Run) (connection : Connection) : Run :=
  match run.session.pools[connection.pool]? with
  | none => run
  | some pool =>
      if connection.generation < pool.generation then
        (run.updatePool connection.pool fun pool => { pool with stale := pool.stale - 1 }).note
          (.returned connection.pool)
      else if run.session.backend.keepsIdle then
        (run.updatePool connection.pool fun pool =>
          { pool with out := pool.out - 1, idle := pool.idle + 1 }).note (.returned connection.pool)
      else
        ((run.updatePool connection.pool fun pool => { pool with out := pool.out - 1 }).note
          (.returned connection.pool)).note (.closing pool.origin.id)

end Run

end QueryGateway
