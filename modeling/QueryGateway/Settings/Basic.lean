import QueryGateway.Document.Fields

/-!
# Settings

The bounds of a connection pool and the defaults of an engine, with the ranges
that a document may choose them from.
-/

namespace QueryGateway

open Document

/-- The bounds of a connection pool: how many connections it holds, how many seconds a caller
waits for one, after how many seconds one is replaced, and whether one is tried out before use. -/
structure PoolSettings where
  maxSize : Nat
  connectTimeout : Binary64
  idleTimeout : Binary64
  prePing : Bool
  deriving Repr, DecidableEq

/-- The defaults of an engine. -/
structure EngineSettings where
  maxRows : Int
  defaultLimit : Int
  poolMaxSize : Nat
  poolConnectTimeout : Binary64
  poolIdleTimeout : Binary64
  poolPrePing : Bool
  clickhouseFullJoin : Bool
  deriving Repr, DecidableEq

namespace PoolSettings

/-- The bounds that hold unless others are chosen. -/
def standard : PoolSettings := ⟨5, .ofInt 10, .ofInt 300, true⟩

/-- Read how many connections a pool holds. -/
def readMaxSize (value : Value) : Checked Nat :=
  ((readInt value).bind (boundBoth 1 50)).map Int.toNat

/-- Read how long a caller waits for a connection. -/
def readConnectTimeout (value : Value) : Checked Binary64 :=
  (readFloat value).bind (boundFloat 300)

/-- Read how long a connection stays in use. -/
def readIdleTimeout (value : Value) : Checked Binary64 :=
  (readFloat value).bind (boundFloat 86400)

/-- The fields of the bounds in order of declaration. -/
def fields : List Field :=
  [.simple "max_size", .simple "connect_timeout", .simple "idle_timeout", .simple "pre_ping"]

/-- Read bounds from a decoded document. -/
def ofValue : Value → Checked PoolSettings :=
  readRecord (.modelType "PoolSettings") fields fun entries =>
    ((((Checked.and (.ok PoolSettings.mk)
      ((Field.simple "max_size").optional standard.maxSize readMaxSize entries)).and
      ((Field.simple "connect_timeout").optional standard.connectTimeout readConnectTimeout
        entries)).and
      ((Field.simple "idle_timeout").optional standard.idleTimeout readIdleTimeout entries)).and
      ((Field.simple "pre_ping").optional standard.prePing readBool entries))

/-- Bounds as a document. -/
def dump (settings : PoolSettings) : Value :=
  .record
    [("max_size", .int settings.maxSize), ("connect_timeout", .float settings.connectTimeout),
      ("idle_timeout", .float settings.idleTimeout), ("pre_ping", .bool settings.prePing)]

end PoolSettings

namespace EngineSettings

/-- The defaults that hold unless others are chosen. -/
def standard : EngineSettings :=
  ⟨10000, 1000, PoolSettings.standard.maxSize, PoolSettings.standard.connectTimeout,
    PoolSettings.standard.idleTimeout, PoolSettings.standard.prePing, true⟩

/-- Read a number of rows. -/
def readRows (value : Value) : Checked Int :=
  (readInt value).bind (boundBelow 1)

/-- The names of the settings in order of declaration. -/
def names : List String :=
  ["max_rows", "default_limit", "pool_max_size", "pool_connect_timeout", "pool_idle_timeout",
    "pool_pre_ping", "clickhouse_full_join"]

/-- Read settings from the values chosen for them. -/
def ofEntries (entries : Entries) : Checked EngineSettings :=
  (((((((Checked.and (.ok EngineSettings.mk)
    ((Field.simple "max_rows").optional standard.maxRows readRows entries)).and
    ((Field.simple "default_limit").optional standard.defaultLimit readRows entries)).and
    ((Field.simple "pool_max_size").optional standard.poolMaxSize PoolSettings.readMaxSize
      entries)).and
    ((Field.simple "pool_connect_timeout").optional standard.poolConnectTimeout
      PoolSettings.readConnectTimeout entries)).and
    ((Field.simple "pool_idle_timeout").optional standard.poolIdleTimeout
      PoolSettings.readIdleTimeout entries)).and
    ((Field.simple "pool_pre_ping").optional standard.poolPrePing readBool entries)).and
    ((Field.simple "clickhouse_full_join").optional standard.clickhouseFullJoin readBool entries))

/-- The bounds of the pools of an engine. -/
def poolSettings (settings : EngineSettings) : PoolSettings :=
  ⟨settings.poolMaxSize, settings.poolConnectTimeout, settings.poolIdleTimeout,
    settings.poolPrePing⟩

/-- Settings as a document. -/
def dump (settings : EngineSettings) : Value :=
  .record
    [("max_rows", .int settings.maxRows), ("default_limit", .int settings.defaultLimit),
      ("pool_max_size", .int settings.poolMaxSize),
      ("pool_connect_timeout", .float settings.poolConnectTimeout),
      ("pool_idle_timeout", .float settings.poolIdleTimeout),
      ("pool_pre_ping", .bool settings.poolPrePing),
      ("clickhouse_full_join", .bool settings.clickhouseFullJoin)]

end EngineSettings

end QueryGateway
