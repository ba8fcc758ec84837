import QueryGateway.Session.Pool

/-!
# The state of the pools

A snapshot of the registered pools for people to look at; passwords are hidden.
-/

namespace QueryGateway

/-- The state of a registered pool.  Connections are counted only where idle ones are kept. -/
structure PoolStatus where
  source : SourceId
  url : String
  counts : Option (Nat × Nat × Nat)
  deriving Repr, DecidableEq

/-- The state of a pool, unless its address is too long to be written; the counts are its size and
its connections that are out and idle. -/
def Pool.status? (session : Session) (source : SourceId) (pool : Pool) : Option PoolStatus :=
  ((pool.address session.backend.scheme).text? true).map fun url =>
    { source
      url
      counts :=
        if session.backend.keepsIdle then
          some (session.settings.maxSize, pool.out, pool.idle)
        else
          none }

/-- The registered pools with the sources that they are registered for. -/
def Session.registeredPools (session : Session) : List (SourceId × Pool) :=
  session.registry.filterMap fun (source, number) =>
    session.pools[number]?.map fun pool => (source, pool)

/-- The state of every registered pool, numbers before texts, unless one of them has none. -/
def Session.status? (session : Session) : Option (List PoolStatus) :=
  let states : Option (List PoolStatus) :=
    session.registeredPools.mapM fun (source, pool) => pool.status? session source
  states.map fun states =>
    states.mergeSort fun left right => left.source.precedes right.source

end QueryGateway
