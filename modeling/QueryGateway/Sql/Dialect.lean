import QueryGateway.Sql.Quote
import QueryGateway.Sql.ServerVersion

/-!
# Dialects

The two engines that a statement can be written for, and everything in which
their SQL differs: how names and texts are quoted, how a truth value is
written, whether a full join is known, and whether an offset may stand without
a limit.
-/

namespace QueryGateway.Sql

/-- The kinds of engine. -/
inductive EngineType where
  | postgresql
  | clickhouse
  deriving Repr, DecidableEq

namespace EngineType

/-- The kinds of engine in order of declaration. -/
def all : List EngineType := [.postgresql, .clickhouse]

/-- The name by which documents refer to a kind of engine. -/
def name : EngineType → String
  | .postgresql => "POSTGRESQL"
  | .clickhouse => "CLICKHOUSE"

/-- The kind of engine with a name. -/
def ofName? (name : String) : Option EngineType :=
  all.find? fun engine => engine.name = name

@[simp]
theorem ofName?_name
    (engine : EngineType) :
    ofName? engine.name = some engine := by
  cases engine <;> decide

end EngineType

/-- The SQL of one engine.  Whether ClickHouse knows full joins depends on its release. -/
inductive Dialect where
  | postgres
  | clickHouse (fullJoin : Bool)
  deriving Repr, DecidableEq

namespace Dialect

/-- The first ClickHouse release with full joins. -/
def fullJoinRelease : ServerVersion := [21, 8]

/-- The dialect of a ClickHouse server.  An explicit choice about full joins stands above what
the release says, and a server of unknown release is taken to have them. -/
def ofServer (release : Option ServerVersion) (fullJoin : Option Bool) : Dialect :=
  let version := release.getD []
  .clickHouse (fullJoin.getD
    (version.isEmpty || ServerVersion.isAtLeast (version.take 2) fullJoinRelease))

/-- The kind of engine that a dialect serves. -/
def engineType : Dialect → EngineType
  | .postgres => .postgresql
  | .clickHouse _ => .clickhouse

/-- The dialect of a kind of engine, with full joins known or not where that is open. -/
def ofEngine (fullJoin : Bool) : EngineType → Dialect
  | .postgresql => .postgres
  | .clickhouse => .clickHouse fullJoin

/-- The name of a dialect. -/
def name : Dialect → String
  | .postgres => "postgres"
  | .clickHouse _ => "clickhouse"

/-- The scheme of a connection address. -/
def driverName : Dialect → String
  | .postgres => "postgresql+psycopg"
  | .clickHouse _ => "clickhousedb"

/-- The port on which a server listens unless told otherwise. -/
def defaultPort : Dialect → Int
  | .postgres => 5432
  | .clickHouse _ => 8123

/-- Whether full joins are known. -/
def supportsFullJoin : Dialect → Bool
  | .postgres => true
  | .clickHouse fullJoin => fullJoin

/-- Whether an offset may stand without a limit. -/
def supportsStandaloneOffset : Dialect → Bool
  | .postgres => true
  | .clickHouse _ => false

/-- The statement that shows whether a server answers. -/
def probeStatement (_ : Dialect) : String := "SELECT 1"

/-- How a dialect describes itself. -/
def description : Dialect → String
  | .postgres => "PostgresDialect()"
  | .clickHouse fullJoin =>
      "ClickHouseDialect(supports_full_join=" ++ (if fullJoin then "True" else "False") ++ ")"

/-- How texts are quoted. -/
def textStyle : Dialect → QuoteStyle
  | .postgres => { kind := .text, mark := '\'', doubles := true, backslash := false }
  | .clickHouse _ => { kind := .text, mark := '\'', doubles := true, backslash := true }

/-- How names are quoted. -/
def identifierStyle : Dialect → QuoteStyle
  | .postgres => { kind := .identifier, mark := '"', doubles := true, backslash := false }
  | .clickHouse _ => { kind := .identifier, mark := '\x60', doubles := false, backslash := true }

/-- The style in which a dialect writes tokens of one kind. -/
def style (dialect : Dialect) : QuoteKind → QuoteStyle
  | .text => dialect.textStyle
  | .identifier => dialect.identifierStyle

/-- Every style that a dialect reads; ClickHouse also reads names between quotation marks. -/
def styles : Dialect → List QuoteStyle
  | .postgres => [textStyle .postgres, identifierStyle .postgres]
  | .clickHouse fullJoin =>
      [textStyle (.clickHouse fullJoin), identifierStyle (.clickHouse fullJoin),
        { kind := .identifier, mark := '"', doubles := false, backslash := true }]

/-- How a truth value is written. -/
def truthText : Dialect → Bool → String
  | .postgres, true => "TRUE"
  | .postgres, false => "FALSE"
  | .clickHouse _, true => "1"
  | .clickHouse _, false => "0"

/-- The style whose mark is a character. -/
def styleOf? (dialect : Dialect) (c : Char) : Option QuoteStyle :=
  dialect.styles.find? fun style => style.mark = c

end Dialect

end QueryGateway.Sql
