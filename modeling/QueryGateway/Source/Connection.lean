import QueryGateway.Settings.Basic
import QueryGateway.Source.Address

/-!
# Opening a pool

What a driver is told when the pool of a source is set up.  An option of the
source goes into the address and stands above an argument of the same name.
-/

namespace QueryGateway

open Sql

/-- The arguments with which a dialect's driver opens connections, whatever the options of the
source. -/
def Sql.Dialect.driverArguments
    (dialect : Dialect)
    (source : DataSource)
    (settings : PoolSettings) :
    List (String × Value) :=
  match dialect with
  | .postgres =>
      ("connect_timeout", .int (settings.connectTimeout.truncate?.getD 0))
        :: (source.chosenSchema.map fun schema =>
              ("options", Value.text ("-c search_path=" ++ schema))).toList
  | .clickHouse _ => []

/-- How the pool of a source is set up: where it connects to, how many connections it holds and
how many beyond that, how long a caller waits, when a connection is replaced, whether one is tried
out before use, and the driver's own arguments. -/
structure PoolSetup where
  address : Address
  size : Nat
  overflow : Nat
  timeout : Binary64
  recycle : Int
  prePing : Bool
  arguments : List (String × Value)
  deriving Repr

/-- The set-up of the pool of a source. -/
def DataSource.poolSetup
    (source : DataSource)
    (dialect : Dialect)
    (settings : PoolSettings) :
    PoolSetup :=
  { address := source.address dialect.driverName (some dialect.defaultPort)
    size := settings.maxSize
    overflow := 0
    timeout := settings.connectTimeout
    recycle := settings.idleTimeout.truncate?.getD 0
    prePing := settings.prePing
    arguments :=
      (dialect.driverArguments source settings).filter fun (name, _) =>
        (source.options.lookup name).isNone }

/-- Whether the text of every option of a source can be written. -/
def DataSource.hasPrintableOptions (source : DataSource) : Bool :=
  source.options.all fun (_, value) => value.hasShortIntegers

/-- The set-up of the pool of a source, unless a number in its address is too long to be written:
the address is noted before the pool is set up. -/
def DataSource.poolSetup?
    (source : DataSource)
    (dialect : Dialect)
    (settings : PoolSettings) :
    Option PoolSetup :=
  if source.hasPrintableOptions && source.hasWritablePort then
    some (source.poolSetup dialect settings)
  else
    none

end QueryGateway
